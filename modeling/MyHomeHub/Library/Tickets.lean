import Mathlib.Data.List.Pairwise
import Mathlib.Logic.Function.Basic

/-!
# Tickets that are redeemed once

An office keeps tickets under keys. It issues a ticket for a limited time, and it hands out
the owner of a ticket to whoever presents its key first, while the ticket is valid.

A ticket that is issued under a used key replaces the one that was stored there. If no key
is used twice, a key is redeemed exactly if its ticket was issued, was not redeemed before
and has not expired (`Sound.valid_iff`).
-/

namespace Library

/-- A ticket, with the time at which it was issued. -/
structure Ticket (Key Owner : Type) where
  key : Key
  owner : Owner
  issuedAt : Nat
  lifetime : Nat
  deriving DecidableEq, Repr

/-- The time from which a ticket is no longer accepted. -/
def Ticket.expiresAt {Key Owner : Type} (ticket : Ticket Key Owner) : Nat :=
  ticket.issuedAt + ticket.lifetime

/-- A ticket that was handed in, with the time at which it was. -/
structure Redemption (Key Owner : Type) where
  ticket : Ticket Key Owner
  redeemedAt : Nat
  deriving DecidableEq, Repr

/-- The clock and the stored tickets. The last two fields are history, which no operation reads. -/
structure TicketOffice (Key Owner : Type) where
  now : Nat
  stored : Key → Option (Ticket Key Owner)
  issued : List (Ticket Key Owner)
  redeemed : List (Redemption Key Owner)

namespace TicketOffice

variable {Key Owner : Type}

/-- An office that has not issued a ticket. -/
def opened (now : Nat) : TicketOffice Key Owner :=
  ⟨now, fun _ => none, [], []⟩

/-- Time passes. -/
def wait (office : TicketOffice Key Owner) (duration : Nat) : TicketOffice Key Owner :=
  { office with now := office.now + duration }

/-- The ticket that is accepted under a key. -/
def valid (office : TicketOffice Key Owner) (key : Key) : Option (Ticket Key Owner) :=
  (office.stored key).filter fun ticket => office.now < ticket.expiresAt

variable [DecidableEq Key]

/-- A new ticket is stored under its key. -/
def issue (office : TicketOffice Key Owner) (key : Key) (owner : Owner) (lifetime : Nat) :
    TicketOffice Key Owner :=
  let ticket : Ticket Key Owner := ⟨key, owner, office.now, lifetime⟩
  { office with
    stored := Function.update office.stored key (some ticket)
    issued := ticket :: office.issued }

/-- A key is presented: its ticket is handed out and deleted. -/
def redeem (office : TicketOffice Key Owner) (key : Key) :
    Option (Ticket Key Owner) × TicketOffice Key Owner :=
  match office.valid key with
  | none => (none, office)
  | some ticket =>
      (some ticket, { office with
        stored := Function.update office.stored key none
        redeemed := ⟨ticket, office.now⟩ :: office.redeemed })

/-! ## What an office keeps true -/

/-- A ticket has been handed in. -/
def IsRedeemed (office : TicketOffice Key Owner) (ticket : Ticket Key Owner) : Prop :=
  ∃ redemption ∈ office.redeemed, redemption.ticket = ticket

/-- No ticket has been issued under a key. -/
def IsFresh (office : TicketOffice Key Owner) (key : Key) : Prop :=
  ∀ ticket ∈ office.issued, ticket.key ≠ key

/-- The stored tickets are those that were issued and not handed in, every ticket was handed in at
most once, and then while it was valid. -/
structure Sound (office : TicketOffice Key Owner) : Prop where
  stored_iff : ∀ key ticket, office.stored key = some ticket ↔
    ticket ∈ office.issued ∧ ticket.key = key ∧ ¬ office.IsRedeemed ticket
  keys_differ : office.issued.Pairwise fun first second => first.key ≠ second.key
  issued_before : ∀ ticket ∈ office.issued, ticket.issuedAt ≤ office.now
  redeemed_valid : ∀ redemption ∈ office.redeemed, redemption.ticket ∈ office.issued ∧
    redemption.ticket.issuedAt ≤ redemption.redeemedAt ∧
      redemption.redeemedAt < redemption.ticket.expiresAt
  redeemed_once : (office.redeemed.map (·.ticket)).Nodup

variable {office : TicketOffice Key Owner} {key : Key} {ticket : Ticket Key Owner}

omit [DecidableEq Key] in
theorem is_redeemed_iff :
    office.IsRedeemed ticket ↔ ticket ∈ office.redeemed.map (·.ticket) := by
  rw [List.mem_map]
  exact Iff.rfl

omit [DecidableEq Key] in
theorem valid_eq_some_iff :
    office.valid key = some ticket ↔
      office.stored key = some ticket ∧ office.now < ticket.expiresAt := by
  rw [valid, Option.filter_eq_some_iff, decide_eq_true_eq]

omit [DecidableEq Key] in
theorem sound_opened (now : Nat) : (opened now : TicketOffice Key Owner).Sound where
  stored_iff key ticket := by simp [opened]
  keys_differ := .nil
  issued_before ticket h := by cases h
  redeemed_valid redemption h := by cases h
  redeemed_once := .nil

omit [DecidableEq Key] in
theorem Sound.wait (h : office.Sound) (duration : Nat) : (office.wait duration).Sound where
  stored_iff := h.stored_iff
  keys_differ := h.keys_differ
  issued_before ticket hissued := Nat.le_add_right_of_le (h.issued_before ticket hissued)
  redeemed_valid := h.redeemed_valid
  redeemed_once := h.redeemed_once

omit [DecidableEq Key] in
/-- A redeemed ticket was issued. -/
theorem Sound.issued_of_redeemed (h : office.Sound) (hredeemed : office.IsRedeemed ticket) :
    ticket ∈ office.issued := by
  obtain ⟨redemption, hmem, rfl⟩ := hredeemed
  exact (h.redeemed_valid redemption hmem).1

omit [DecidableEq Key] in
/-- Issued tickets are told apart by their keys. -/
theorem Sound.eq_of_key (h : office.Sound) {other : Ticket Key Owner}
    (hticket : ticket ∈ office.issued) (hother : other ∈ office.issued)
    (hkey : ticket.key = other.key) : ticket = other := by
  by_contra hne
  have hsymm : Std.Symm fun first second : Ticket Key Owner => first.key ≠ second.key :=
    ⟨fun _ _ hkeys => hkeys.symm⟩
  exact h.keys_differ.forall hticket hother hne hkey

/-- Issuing a ticket under an unused key keeps an office sound. -/
theorem Sound.issue (h : office.Sound) (hfresh : office.IsFresh key) (owner : Owner)
    (lifetime : Nat) : (office.issue key owner lifetime).Sound := by
  have hnew : ∀ other : Ticket Key Owner, other.key = key → ¬ office.IsRedeemed other :=
    fun other hkey hredeemed => hfresh other (h.issued_of_redeemed hredeemed) hkey
  constructor
  · intro other ticket
    show Function.update office.stored key _ other = some ticket ↔
      ticket ∈ _ :: office.issued ∧ ticket.key = other ∧ ¬ office.IsRedeemed ticket
    rw [List.mem_cons]
    by_cases hother : other = key
    · subst hother
      rw [Function.update_self, Option.some.injEq]
      constructor
      · rintro rfl
        exact ⟨.inl rfl, rfl, hnew _ rfl⟩
      · rintro ⟨rfl | hissued, hkey, -⟩
        · rfl
        · exact absurd hkey (hfresh ticket hissued)
    · rw [Function.update_of_ne hother, h.stored_iff]
      constructor
      · rintro ⟨hissued, hrest⟩
        exact ⟨.inr hissued, hrest⟩
      · rintro ⟨rfl | hissued, hkey, hunused⟩
        · exact absurd hkey.symm hother
        · exact ⟨hissued, hkey, hunused⟩
  · exact List.pairwise_cons.mpr
      ⟨fun other hother => (hfresh other hother).symm, h.keys_differ⟩
  · intro other hother
    rcases List.mem_cons.mp hother with rfl | hissued
    · exact Nat.le_refl _
    · exact h.issued_before other hissued
  · intro redemption hmem
    obtain ⟨hissued, htimes⟩ := h.redeemed_valid redemption hmem
    exact ⟨List.mem_cons_of_mem _ hissued, htimes⟩
  · exact h.redeemed_once

/-- Presenting a key keeps an office sound. -/
theorem Sound.redeem (h : office.Sound) (key : Key) : (office.redeem key).2.Sound := by
  rw [TicketOffice.redeem]
  split
  · exact h
  · rename_i ticket hvalid
    obtain ⟨hstored, hnow⟩ := valid_eq_some_iff.mp hvalid
    obtain ⟨hissued, hkey, hunused⟩ := (h.stored_iff key ticket).mp hstored
    constructor
    · intro other found
      rw [is_redeemed_iff, List.map_cons, List.mem_cons, ← is_redeemed_iff, not_or]
      show Function.update office.stored key none other = some found ↔ _
      by_cases hother : other = key
      · subst hother
        rw [Function.update_self]
        refine iff_of_false nofun ?_
        rintro ⟨hfound, hsame, hnot, -⟩
        exact hnot (h.eq_of_key hfound hissued (hsame.trans hkey.symm))
      · rw [Function.update_of_ne hother, h.stored_iff]
        constructor
        · rintro ⟨hfound, hsame, hrest⟩
          refine ⟨hfound, hsame, ?_, hrest⟩
          rintro rfl
          exact hother (hsame.symm.trans hkey)
        · rintro ⟨hfound, hsame, -, hrest⟩
          exact ⟨hfound, hsame, hrest⟩
    · exact h.keys_differ
    · exact h.issued_before
    · intro redemption hmem
      rcases List.mem_cons.mp hmem with rfl | hbefore
      · exact ⟨hissued, h.issued_before ticket hissued, hnow⟩
      · exact h.redeemed_valid redemption hbefore
    · rw [List.map_cons, List.nodup_cons, ← is_redeemed_iff]
      exact ⟨hunused, h.redeemed_once⟩

omit [DecidableEq Key] in
/-- A key is accepted exactly if its ticket was issued, was not handed in and has not expired. -/
theorem Sound.valid_iff (h : office.Sound) :
    office.valid key = some ticket ↔ ticket ∈ office.issued ∧ ticket.key = key ∧
      ¬ office.IsRedeemed ticket ∧ office.now < ticket.expiresAt := by
  rw [valid_eq_some_iff, h.stored_iff, and_assoc, and_assoc]

theorem redeem_fst : (office.redeem key).1 = office.valid key := by
  rw [redeem]
  split <;> rename_i hvalid <;> exact hvalid.symm

/-- A key that was presented is not accepted again. -/
theorem valid_of_redeem : (office.redeem key).2.valid key = none := by
  rw [redeem]
  split
  · rename_i hvalid
    exact hvalid
  · show (Function.update office.stored key none key).filter _ = none
    rw [Function.update_self]
    rfl

/-- What a presented key leaves: nothing changes, or its ticket is handed in. -/
theorem redeem_cases (office : TicketOffice Key Owner) (key : Key) :
    (office.valid key = none ∧ office.redeem key = (none, office)) ∨
      ∃ ticket, office.valid key = some ticket ∧ (office.redeem key).1 = some ticket ∧
        (office.redeem key).2.issued = office.issued ∧
        (office.redeem key).2.redeemed = ⟨ticket, office.now⟩ :: office.redeemed := by
  rw [redeem]
  split
  · rename_i hvalid
    exact .inl ⟨hvalid, rfl⟩
  · rename_i ticket hvalid
    exact .inr ⟨ticket, hvalid, rfl, rfl, rfl⟩

end TicketOffice

end Library
