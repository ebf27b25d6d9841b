import Mathlib.Data.Fintype.Card
import Mathlib.Data.Set.Finite.Basic
import Mathlib.Logic.Hydra
import Mathlib.Logic.Relation

/-!
# Cascades of tasks

A pool of pending tasks is worked off in any order, and handling a task may put new tasks
into the pool. Whether the pool runs empty depends on which task spawns which: if no chain of
tasks is infinite, then no order of handling them is, since taking a task out of a multiset
and putting tasks below it in is a well-founded step.

`Inevitable` says that a state with a property is reached after finitely many steps, however
they are chosen. `inevitable_of_tasks` proves it for a system whose steps handle tasks, and
`acc_of_acyclic` gives the absence of infinite chains for a relation with finitely many
targets and without cycles.
-/

namespace Library

variable {State : Type} {step : State → State → Prop} {goal : State → Prop} {s : State}

/-! ## What is reached in any case -/

/-- The goal is reached after finitely many steps, however they are chosen. -/
inductive Inevitable (step : State → State → Prop) (goal : State → Prop) : State → Prop
  | now {s : State} (h : goal s) : Inevitable step goal s
  | later {s : State} (hsome : ∃ t, step s t) (h : ∀ t, step s t → Inevitable step goal t) :
      Inevitable step goal s

/-- A system that cannot run forever and stops at the goal only reaches the goal. -/
theorem inevitable_of_acc {inv : State → Prop} (hacc : Acc (fun t s => inv s ∧ step s t) s)
    (hs : inv s) (hstep : ∀ s t, inv s → step s t → inv t)
    (hprogress : ∀ s, inv s → ¬ goal s → ∃ t, step s t) : Inevitable step goal s := by
  induction hacc with
  | intro s _ ih =>
      by_cases hgoal : goal s
      · exact .now hgoal
      · exact .later (hprogress s hs hgoal) fun t ht => ih t ⟨hs, ht⟩ (hstep s t hs ht)

/-- The goal can be avoided if some step always stays among states that are not the goal. -/
theorem not_inevitable_of_avoided {avoids : State → Prop} (hs : avoids s)
    (hgoal : ∀ s, avoids s → ¬ goal s) (hstep : ∀ s, avoids s → ∃ t, step s t ∧ avoids t) :
    ¬ Inevitable step goal s := by
  intro h
  induction h with
  | now h => exact hgoal _ hs h
  | later _ _ ih =>
      obtain ⟨t, ht, havoids⟩ := hstep _ hs
      exact ih t ht havoids

/-! ## Pools of tasks -/

variable {Task : Type} {spawns : Task → Task → Prop}

/-- A task is taken out of the pool, and tasks that it spawns are put in. -/
def PoolStep (spawns : Task → Task → Prop) (pool next : Multiset Task) : Prop :=
  ∃ task rest new, pool = task ::ₘ rest ∧ next = rest + new ∧ ∀ child ∈ new, spawns task child

/-- A task without infinite chains does not spawn itself. -/
theorem not_spawns_self {task : Task} (h : Acc (fun child parent => spawns parent child) task) :
    ¬ spawns task task := by
  intro hself
  induction h with
  | intro task _ ih => exact ih task hself hself

/-- A pool of tasks without infinite chains cannot be worked on forever. -/
theorem acc_pool {pool : Multiset Task}
    (h : ∀ task ∈ pool, Acc (fun child parent => spawns parent child) task) :
    Acc (fun next pool => PoolStep spawns pool next) pool := by
  -- only tasks without infinite chains count, so that the relation is irreflexive
  let below (child parent : Task) : Prop :=
    spawns parent child ∧ Acc (fun child parent => spawns parent child) parent
  have hirrefl : Std.Irrefl below := ⟨fun task hself => not_spawns_self hself.2 hself.1⟩
  have hbelow {task : Task} (htask : Acc (fun child parent => spawns parent child) task) :
      Acc below task :=
    Subrelation.accessible (fun hchild => hchild.1) htask
  have hcut : Acc (Relation.CutExpand below) pool :=
    Relation.acc_of_singleton fun task htask => (hbelow (h task htask)).cutExpand
  induction hcut with
  | intro pool _ ih =>
      refine Acc.intro pool fun next hnext => ?_
      obtain ⟨task, rest, new, rfl, rfl, hnew⟩ := hnext
      have htask := h task (Multiset.mem_cons_self task rest)
      refine ih (rest + new) ⟨new, task, fun child hchild => ⟨hnew child hchild, htask⟩, ?_⟩ ?_
      · rw [add_right_comm, Multiset.add_comm rest, Multiset.singleton_add]
      · intro other hother
        rcases Multiset.mem_add.mp hother with hrest | hchild
        · exact h other (Multiset.mem_cons_of_mem hrest)
        · exact htask.inv (hnew other hchild)

/-- A system that handles pending tasks runs out of them when no chain of tasks is infinite. -/
theorem inevitable_of_tasks {inv : State → Prop} (pending : State → List Task) (hs : inv s)
    (hacc : ∀ task ∈ pending s, Acc (fun child parent => spawns parent child) task)
    (hstep : ∀ s t, inv s → step s t → inv t ∧ PoolStep spawns (pending s) (pending t))
    (hprogress : ∀ s, inv s → pending s ≠ [] → ∃ t, step s t) :
    Inevitable step (fun s => pending s = []) s := by
  have hpool : Acc (fun t s => inv s ∧ step s t) s :=
    Subrelation.accessible (fun {t s} h => (hstep s t h.1 h.2).2)
      (InvImage.accessible (fun s => (pending s : Multiset Task)) (acc_pool hacc))
  exact inevitable_of_acc hpool hs (fun s t hs ht => (hstep s t hs ht).1) hprogress

/-! ## Relations without cycles -/

variable {α : Type} {r : α → α → Prop} {a : α}

/-- Without a cycle ahead, and with finitely many targets, there is no infinite chain. -/
theorem acc_of_acyclic {targets : Set α} (hfinite : targets.Finite)
    (htargets : ∀ x y, r x y → y ∈ targets)
    (hacyclic : ∀ x, Relation.ReflTransGen r a x → ¬ Relation.TransGen r x x) :
    Acc (fun y x => r x y) a := by
  -- what is ahead is finite, and to follow on it is transitive and, without a cycle, irreflexive
  let ahead : Set α := {x | Relation.ReflTransGen r a x}
  have hahead : ahead ⊆ insert a targets := by
    intro x hx
    rcases Relation.ReflTransGen.cases_tail hx with rfl | ⟨y, -, hyx⟩
    · exact Set.mem_insert x targets
    · exact Set.mem_insert_of_mem a (htargets y x hyx)
  have : Finite ahead := (hfinite.insert a).subset hahead
  let follows (y x : ahead) : Prop := Relation.TransGen r x y
  have : IsTrans ahead follows := ⟨fun _ _ _ hzy hyx => hyx.trans hzy⟩
  have : Std.Irrefl follows := ⟨fun x hself => hacyclic x x.2 hself⟩
  have hwf : WellFounded follows := Finite.wellFounded_of_trans_of_irrefl follows
  have hall (x : ahead) : Acc (fun y x => r x y) (x : α) := by
    induction x using hwf.induction with
    | _ x ih => exact Acc.intro _ fun y hxy => ih ⟨y, x.2.tail hxy⟩ (.single hxy)
  exact hall ⟨a, .refl⟩

end Library
