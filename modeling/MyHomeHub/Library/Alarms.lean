import Mathlib.Data.List.Chain

/-!
# Alarms on changes

A monitor samples a condition again and again and reports only what has changed: an alarm
when a sample is down and the sample before it was not, the all-clear when a sample is up
and the sample before it was down. A sample may also say nothing of the condition, and
such a sample is reported neither way.

The monitor keeps one flag, whether the last sample was down. What it reports is a
function of the samples, and where every sample says something, alarms and all-clears take
turns.
-/

namespace Library

/-- What a sample says of the condition. -/
inductive Level where
  | down
  | up
  | unknown
  deriving DecidableEq, Repr

/-- What is reported of a change. -/
inductive Edge where
  | raised
  | cleared
  deriving DecidableEq, Repr

/-- The report on a sample, after a sample that was down or not. -/
def edge (wasDown : Bool) (level : Level) : Option Edge :=
  if level = .down ∧ wasDown = false then some .raised
  else if level = .up ∧ wasDown = true then some .cleared
  else none

section

variable {Sample : Type} (level : Sample → Level)

/-- Whether the last sample was down. -/
def endsDown (samples : List Sample) : Bool :=
  samples.getLast?.any fun sample => level sample = .down

/-- The reports on the samples, each with the sample it is made on. -/
def edges : Bool → List Sample → List (Sample × Edge)
  | _, [] => []
  | wasDown, sample :: rest =>
      ((edge wasDown (level sample)).map (sample, ·)).toList ++
        edges (level sample = .down) rest

variable {samples : List Sample} {sample : Sample} {wasDown : Bool}

@[simp] theorem ends_down_concat :
    endsDown level (samples ++ [sample]) = decide (level sample = .down) := by
  simp [endsDown]

/-- One more sample is compared with the last one. -/
theorem edges_concat :
    edges level false (samples ++ [sample]) = edges level false samples ++
      ((edge (endsDown level samples) (level sample)).map (sample, ·)).toList := by
  -- the flag at the start is the one of a list that is down exactly then
  have hgeneral : ∀ (wasDown : Bool), edges level wasDown (samples ++ [sample]) =
      edges level wasDown samples ++
        ((edge (if samples = [] then wasDown else endsDown level samples)
          (level sample)).map (sample, ·)).toList := by
    induction samples with
    | nil =>
        intro wasDown
        simp [edges]
    | cons first rest ih =>
        intro wasDown
        rw [List.cons_append, edges, edges, ih, List.append_assoc]
        congr 4
        cases rest with
        | nil => simp [endsDown]
        | cons second rest => simp [endsDown]
  rw [hgeneral]
  cases samples with
  | nil => rfl
  | cons first rest => simp

/-- The reports take turns, and the first one is an alarm unless the start is down. -/
theorem edges_take_turns (h : ∀ sample ∈ samples, level sample ≠ .unknown) :
    ((edges level wasDown samples).map Prod.snd).IsChain (· ≠ ·) ∧
      ∀ first ∈ ((edges level wasDown samples).map Prod.snd).head?,
        first = if wasDown then .cleared else .raised := by
  induction samples generalizing wasDown with
  | nil => exact ⟨.nil, nofun⟩
  | cons sample rest ih =>
      obtain ⟨hchain, hhead⟩ := @ih (level sample = .down) fun other hother =>
        h other (List.mem_cons_of_mem _ hother)
      rw [edges, List.map_append]
      cases hlevel : level sample with
      | unknown => exact absurd hlevel (h sample List.mem_cons_self)
      | down =>
          rw [hlevel] at hchain hhead
          cases wasDown with
          | false => exact ⟨List.isChain_cons.mpr ⟨fun first hfirst => by
              rw [hhead first hfirst]; exact nofun, hchain⟩, by simp [edge]⟩
          | true => exact ⟨hchain, hhead⟩
      | up =>
          rw [hlevel] at hchain hhead
          cases wasDown with
          | false => exact ⟨hchain, hhead⟩
          | true => exact ⟨List.isChain_cons.mpr ⟨fun first hfirst => by
              rw [hhead first hfirst]; exact nofun, hchain⟩, by simp [edge]⟩

end

end Library
