import Mathlib.Algebra.BigOperators.Group.Finset.Piecewise
import Mathlib.Algebra.Order.Ring.Int
import MyHomeHub.Library.Runs

/-!
# Callers that read and save

Any number of callers work on a store of values under keys. Each of them has a list of
operations, and an operation takes two steps: it reads the value of its key, and it saves
what it makes of that value. Between the two, other callers take steps of their own.

As long as no caller reads a key that another one has read and not yet saved, every save
builds on the current value. `total_of_run` says what follows for a total that each
operation changes by a fixed amount: no change is lost, in any order of the steps.
-/

namespace Library.ExclusiveReads

/-- A store of values under keys, and what saving an operation makes of it, given the value that was
read. A save can be refused. -/
structure Registers (Store Key Value Operation Error : Type) where
  key : Operation → Key
  read : Store → Key → Value
  save : Store → Operation → Value → Except Error Store

/-- Where a caller is: before an operation, between its read and its save, or at an operation that
was refused. -/
inductive Phase (Value Operation : Type) where
  | ready (operations : List Operation)
  | loaded (value : Value) (operation : Operation) (rest : List Operation)
  | refused (operations : List Operation)

/-- The operations that are not done. -/
def Phase.remaining {Value Operation : Type} : Phase Value Operation → List Operation
  | .ready operations => operations
  | .loaded _ operation rest => operation :: rest
  | .refused operations => operations

/-- The store and the phases of the callers. -/
structure System (Caller Store Value Operation : Type) where
  store : Store
  phases : Caller → Phase Value Operation

variable {Caller Store Key Value Operation Error : Type}
  {registers : Registers Store Key Value Operation Error}

/-- The next step of a caller. -/
def Phase.step (registers : Registers Store Key Value Operation Error) (store : Store) :
    Phase Value Operation → Store × Phase Value Operation
  | .ready [] => (store, .ready [])
  | .ready (operation :: rest) =>
      (store, .loaded (registers.read store (registers.key operation)) operation rest)
  | .loaded value operation rest =>
      match registers.save store operation value with
      | .ok store => (store, .ready rest)
      | .error _ => (store, .refused (operation :: rest))
  | .refused operations => (store, .refused operations)

/-- An operation whose two steps are taken in a row. -/
def Registers.perform (registers : Registers Store Key Value Operation Error) (store : Store)
    (operation : Operation) : Except Error Store :=
  registers.save store operation (registers.read store (registers.key operation))

/-- Two steps of a caller in a row perform its next operation. -/
theorem step_step (store : Store) (operation : Operation) (rest : List Operation) :
    let first := Phase.step registers store (.ready (operation :: rest))
    Phase.step registers first.1 first.2 =
      match registers.perform store operation with
      | .ok store => (store, .ready rest)
      | .error _ => (store, .refused (operation :: rest)) :=
  rfl

section Systems

variable {s t : System Caller Store Value Operation} {caller other : Caller} {key : Key}

/-- A caller has read a key and not yet saved it. -/
def Holds (registers : Registers Store Key Value Operation Error)
    (s : System Caller Store Value Operation) (caller : Caller) (key : Key) : Prop :=
  ∃ value operation rest,
    s.phases caller = .loaded value operation rest ∧ registers.key operation = key

/-- If the next step of a caller is a read, no other caller holds the key. -/
def ReadsAlone (registers : Registers Store Key Value Operation Error)
    (s : System Caller Store Value Operation) (caller : Caller) : Prop :=
  ∀ operation rest, s.phases caller = .ready (operation :: rest) →
    ∀ other ≠ caller, ¬ Holds registers s other (registers.key operation)

/-- A caller reads alone when every other one is before an operation. -/
theorem reads_alone_of_ready
    (h : ∀ other ≠ caller, ∃ operations, s.phases other = .ready operations) :
    ReadsAlone registers s caller := by
  intro operation rest _ other hne hholds
  obtain ⟨operations, hready⟩ := h other hne
  obtain ⟨value, held, heldRest, hloaded, -⟩ := hholds
  rw [hready] at hloaded
  cases hloaded

/-- Every caller that holds a key has read its current value, and no key is held twice. -/
structure Exclusive (registers : Registers Store Key Value Operation Error)
    (s : System Caller Store Value Operation) : Prop where
  current : ∀ caller value operation rest, s.phases caller = .loaded value operation rest →
    value = registers.read s.store (registers.key operation)
  alone : ∀ caller other key,
    Holds registers s caller key → Holds registers s other key → caller = other

/-- The callers before their first steps. -/
def System.start (store : Store) (operations : Caller → List Operation) :
    System Caller Store Value Operation :=
  ⟨store, fun caller => .ready (operations caller)⟩

theorem exclusive_start (store : Store) (operations : Caller → List Operation) :
    Exclusive registers (System.start store operations) := by
  refine ⟨fun _ _ _ _ h => ?_, fun _ _ _ h => ?_⟩
  · cases h
  · obtain ⟨_, _, _, h, -⟩ := h
    cases h

variable [DecidableEq Caller]

/-- The system after a step of one caller. -/
def System.advance (s : System Caller Store Value Operation) (caller : Caller) (store : Store)
    (phase : Phase Value Operation) : System Caller Store Value Operation :=
  ⟨store, Function.update s.phases caller phase⟩

@[simp] theorem store_advance (store : Store) (phase : Phase Value Operation) :
    (s.advance caller store phase).store = store :=
  rfl

@[simp] theorem phases_advance_self (store : Store) (phase : Phase Value Operation) :
    (s.advance caller store phase).phases caller = phase := by
  show Function.update s.phases caller phase caller = phase
  rw [Function.update_self]

theorem phases_advance_of_ne (store : Store) (phase : Phase Value Operation)
    (hne : other ≠ caller) : (s.advance caller store phase).phases other = s.phases other := by
  show Function.update s.phases caller phase other = s.phases other
  rw [Function.update_of_ne hne]

/-- One of the callers takes its next step. -/
def System.step (registers : Registers Store Key Value Operation Error)
    (s : System Caller Store Value Operation) (caller : Caller) :
    System Caller Store Value Operation :=
  let next := (s.phases caller).step registers s.store
  s.advance caller next.1 next.2

/-- The steps of the system. -/
def Steps (registers : Registers Store Key Value Operation Error)
    (s : System Caller Store Value Operation) (caller : Caller)
    (t : System Caller Store Value Operation) : Prop :=
  t = s.step registers caller

/-! ## One step -/

/-- What the next step of a caller is: it is done or refused, it reads, it saves, or its save is
refused. -/
theorem step_cases (registers : Registers Store Key Value Operation Error)
    (s : System Caller Store Value Operation) (caller : Caller) :
    s.step registers caller = s ∨
    (∃ operation rest, s.phases caller = .ready (operation :: rest) ∧
      s.step registers caller = s.advance caller s.store
        (.loaded (registers.read s.store (registers.key operation)) operation rest)) ∨
    (∃ value operation rest, s.phases caller = .loaded value operation rest ∧
      ((∃ store, registers.save s.store operation value = .ok store ∧
        s.step registers caller = s.advance caller store (.ready rest)) ∨
      s.step registers caller = s.advance caller s.store (.refused (operation :: rest)))) := by
  have hsame : s.advance caller s.store (s.phases caller) = s := by
    rw [System.advance, Function.update_eq_self]
  unfold System.step
  cases hphase : s.phases caller with
  | ready operations =>
      cases operations with
      | nil =>
          rw [hphase] at hsame
          exact .inl hsame
      | cons operation rest => exact .inr (.inl ⟨operation, rest, rfl, rfl⟩)
  | loaded value operation rest =>
      refine .inr (.inr ⟨value, operation, rest, rfl, ?_⟩)
      rw [Phase.step]
      cases hsave : registers.save s.store operation value with
      | ok store => exact .inl ⟨store, rfl, rfl⟩
      | error error => exact .inr rfl
  | refused operations =>
      rw [hphase] at hsame
      exact .inl hsame

/-- A caller that has not loaded anything holds no key. -/
theorem not_holds {phase : Phase Value Operation} {store : Store}
    (h : ∀ value operation rest, phase ≠ .loaded value operation rest) :
    ¬ Holds registers (s.advance caller store phase) caller key := by
  intro hholds
  obtain ⟨value, operation, rest, hphase, -⟩ := hholds
  rw [phases_advance_self] at hphase
  exact h value operation rest hphase

/-- What a caller holds does not depend on the phases of the others. -/
theorem holds_of_other {phase : Phase Value Operation} {store : Store} (hne : other ≠ caller) :
    Holds registers (s.advance caller store phase) other key ↔ Holds registers s other key := by
  unfold Holds
  rw [phases_advance_of_ne store phase hne]

/-- When a caller gives up its key, the others still hold theirs, and no key twice. -/
theorem alone_of_released {phase : Phase Value Operation} {store : Store}
    (hs : Exclusive registers s)
    (h : ∀ value operation rest, phase ≠ .loaded value operation rest) (first second : Caller)
    (key : Key) :
    Holds registers (s.advance caller store phase) first key →
      Holds registers (s.advance caller store phase) second key →
        first = second := by
  intro hfirst hsecond
  have hfirstNe : first ≠ caller := fun hsame => not_holds h (hsame ▸ hfirst)
  have hsecondNe : second ≠ caller := fun hsame => not_holds h (hsame ▸ hsecond)
  exact hs.alone first second key ((holds_of_other hfirstNe).mp hfirst)
    ((holds_of_other hsecondNe).mp hsecond)

/-- A save leaves the values of the other keys. -/
def SavesOneKey (registers : Registers Store Key Value Operation Error) : Prop :=
  ∀ store operation value store', registers.save store operation value = .ok store' →
    ∀ key ≠ registers.key operation, registers.read store' key = registers.read store key

/-- A caller that reads alone keeps the reads current and exclusive. -/
theorem exclusive_step (hsaves : SavesOneKey registers) (hs : Exclusive registers s)
    (hreads : ReadsAlone registers s caller) : Exclusive registers (s.step registers caller) := by
  rcases step_cases registers s caller with hsame | ⟨operation, rest, hphase, hstep⟩ |
    ⟨value, operation, rest, hphase, ⟨store, hsave, hstep⟩ | hstep⟩
  · rw [hsame]
    exact hs
  · -- the caller reads the current value, and nobody else holds the key
    rw [hstep]
    refine ⟨fun other value otherOperation otherRest h => ?_,
      fun first second key hfirst hsecond => ?_⟩
    · by_cases hne : other = caller
      · rw [hne, phases_advance_self, Phase.loaded.injEq] at h
        obtain ⟨rfl, rfl, -⟩ := h
        rfl
      · rw [phases_advance_of_ne _ _ hne] at h
        exact hs.current other value otherOperation otherRest h
    · have hown : ∀ other, Holds registers (s.advance caller s.store
          (.loaded (registers.read s.store (registers.key operation)) operation rest)) caller key →
          other ≠ caller → ¬ Holds registers s other key := by
        intro other hheld hne
        obtain ⟨_, _, _, hloaded, hkey⟩ := hheld
        rw [phases_advance_self, Phase.loaded.injEq] at hloaded
        obtain ⟨-, rfl, -⟩ := hloaded
        rw [← hkey]
        exact hreads operation rest hphase other hne
      by_cases hfirstNe : first = caller
      · by_cases hsecondNe : second = caller
        · rw [hfirstNe, hsecondNe]
        · rw [hfirstNe] at hfirst
          exact absurd ((holds_of_other hsecondNe).mp hsecond) (hown second hfirst hsecondNe)
      · by_cases hsecondNe : second = caller
        · rw [hsecondNe] at hsecond
          exact absurd ((holds_of_other hfirstNe).mp hfirst) (hown first hsecond hfirstNe)
        · exact hs.alone first second key ((holds_of_other hfirstNe).mp hfirst)
            ((holds_of_other hsecondNe).mp hsecond)
  · -- the others have read other keys, which the save leaves
    rw [hstep]
    refine ⟨fun other otherValue otherOperation otherRest h => ?_,
      alone_of_released hs fun _ _ _ => nofun⟩
    by_cases hne : other = caller
    · rw [hne, phases_advance_self] at h
      cases h
    · rw [phases_advance_of_ne _ _ hne] at h
      have hkey : registers.key otherOperation ≠ registers.key operation := by
        intro hsame
        exact hne (hs.alone other caller (registers.key operation)
          ⟨otherValue, otherOperation, otherRest, h, hsame⟩ ⟨value, operation, rest, hphase, rfl⟩)
      rw [hs.current other otherValue otherOperation otherRest h]
      exact (hsaves s.store operation value store hsave _ hkey).symm
  · rw [hstep]
    refine ⟨fun other otherValue otherOperation otherRest h => ?_,
      alone_of_released hs fun _ _ _ => nofun⟩
    by_cases hne : other = caller
    · rw [hne, phases_advance_self] at h
      cases h
    · rw [phases_advance_of_ne _ _ hne] at h
      exact hs.current other otherValue otherOperation otherRest h

/-! ## A total -/

section Totals

variable [DecidableEq Key] {amount : Operation → ℤ} {total : Store → Key → ℤ}

/-- What an operation adds to the total of a key. -/
def amountAt (registers : Registers Store Key Value Operation Error) (amount : Operation → ℤ)
    (key : Key) (operation : Operation) : ℤ :=
  if registers.key operation = key then amount operation else 0

/-- What operations add to the total of a key. -/
def amountsAt (registers : Registers Store Key Value Operation Error) (amount : Operation → ℤ)
    (key : Key) (operations : List Operation) : ℤ :=
  (operations.map (amountAt registers amount key)).sum

theorem amounts_at_cons (operation : Operation) (rest : List Operation) :
    amountsAt registers amount key (operation :: rest) =
      amountAt registers amount key operation + amountsAt registers amount key rest := by
  rw [amountsAt, List.map_cons, List.sum_cons, amountsAt]

theorem amounts_at_append (first second : List Operation) :
    amountsAt registers amount key (first ++ second) =
      amountsAt registers amount key first + amountsAt registers amount key second := by
  rw [amountsAt, List.map_append, List.sum_append, amountsAt, amountsAt]

/-- A save of the current value changes the total by the amount of the operation. -/
def Additive (registers : Registers Store Key Value Operation Error) (amount : Operation → ℤ)
    (total : Store → Key → ℤ) : Prop :=
  ∀ store operation store', registers.perform store operation = .ok store' →
    ∀ key, total store' key = total store key + amountAt registers amount key operation

variable [Fintype Caller]

/-- What the operations that are not done add to the total of a key. -/
def System.due (registers : Registers Store Key Value Operation Error) (amount : Operation → ℤ)
    (s : System Caller Store Value Operation) (key : Key) : ℤ :=
  ∑ caller, amountsAt registers amount key (s.phases caller).remaining

/-- A step of one caller changes what is due by the operation that it has done. -/
theorem due_advance (registers : Registers Store Key Value Operation Error)
    (amount : Operation → ℤ) (s : System Caller Store Value Operation) (caller : Caller)
    (key : Key) (store : Store) (phase : Phase Value Operation) :
    (s.advance caller store phase).due registers amount key +
        amountsAt registers amount key (s.phases caller).remaining =
      s.due registers amount key + amountsAt registers amount key phase.remaining := by
  unfold System.due
  rw [Fintype.sum_eq_add_sum_compl caller, Fintype.sum_eq_add_sum_compl caller, phases_advance_self]
  have hothers : ∑ other ∈ {caller}ᶜ, amountsAt registers amount key
        ((s.advance caller store phase).phases other).remaining =
      ∑ other ∈ {caller}ᶜ, amountsAt registers amount key (s.phases other).remaining := by
    refine Finset.sum_congr rfl fun other hother => ?_
    rw [Finset.mem_compl, Finset.mem_singleton] at hother
    rw [phases_advance_of_ne store phase hother]
  rw [hothers]
  omega

/-- A step moves an amount from what is due to the total, or leaves both as they are. -/
theorem total_step (hadditive : Additive registers amount total) (hs : Exclusive registers s)
    (key : Key) :
    total (s.step registers caller).store key + (s.step registers caller).due registers amount key =
      total s.store key + s.due registers amount key := by
  rcases step_cases registers s caller with hsame | ⟨operation, rest, hphase, hstep⟩ |
    ⟨value, operation, rest, hphase, ⟨store, hsave, hstep⟩ | hstep⟩
  · rw [hsame]
  · have hdue := due_advance registers amount s caller key s.store
      (.loaded (registers.read s.store (registers.key operation)) operation rest)
    rw [hphase] at hdue
    rw [hstep, store_advance]
    simp only [Phase.remaining] at hdue
    omega
  · -- the value is current, so the save performs the operation
    have hvalue := hs.current caller value operation rest hphase
    have hperform : registers.perform s.store operation = .ok store := by
      rw [Registers.perform, ← hvalue, hsave]
    have htotal := hadditive s.store operation store hperform key
    have hdue := due_advance registers amount s caller key store (.ready rest)
    rw [hphase] at hdue
    rw [hstep, store_advance]
    simp only [Phase.remaining, amounts_at_cons] at hdue
    omega
  · have hdue := due_advance registers amount s caller key s.store
      (.refused (operation :: rest))
    rw [hphase] at hdue
    rw [hstep, store_advance]
    simp only [Phase.remaining] at hdue
    omega

/-! ## Runs -/

/-- In every run in which callers read alone, the total and what is due add up to what they were
at the start. -/
theorem total_of_run (hsaves : SavesOneKey registers)
    (hadditive : Additive registers amount total) (hs : Exclusive registers s)
    (hrun : Reaches (Steps registers) (ReadsAlone registers) s t) (key : Key) :
    total t.store key + t.due registers amount key =
      total s.store key + s.due registers amount key := by
  have hinvariant := @Reaches.invariant _ _ _ _ _ _
    (fun u => Exclusive registers u ∧ total u.store key + u.due registers amount key =
      total s.store key + s.due registers amount key) hrun ⟨hs, rfl⟩
    fun u caller next hu hreads hstep => by
      obtain ⟨hexclusive, htotal⟩ := hu
      cases hstep
      exact ⟨exclusive_step hsaves hexclusive hreads,
        (total_step hadditive hexclusive key).trans htotal⟩
  exact hinvariant.2

/-- When every caller has done its operations, their amounts are in the total. -/
theorem total_of_finished_run {store : Store} {operations : Caller → List Operation}
    (hsaves : SavesOneKey registers) (hadditive : Additive registers amount total)
    (hrun : Reaches (Steps registers) (ReadsAlone registers) (.start store operations) t)
    (hdone : ∀ caller, t.phases caller = .ready []) (key : Key) :
    total t.store key =
      total store key + ∑ caller, amountsAt registers amount key (operations caller) := by
  have htotal := total_of_run hsaves hadditive (exclusive_start store operations) hrun key
  have hdue : t.due registers amount key = 0 := by
    unfold System.due
    refine Finset.sum_eq_zero fun caller _ => ?_
    rw [hdone caller]
    rfl
  rw [hdue, add_zero] at htotal
  exact htotal

end Totals

end Systems

end Library.ExclusiveReads
