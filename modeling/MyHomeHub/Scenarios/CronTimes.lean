import MyHomeHub.Library.Fields
import MyHomeHub.Scenarios.Service

/-!
# The time of a cron expression

`updateCronTime` of the scheduler service writes the time of the sunrise or the sunset into
a cron expression. It splits the expression at each single space and takes the first two
pieces for the minute and the hour, or the first three of six pieces for the second, the
minute and the hour. The cron packages read fields between runs of whitespace of any length,
so the pieces and the fields are the same only if the spacing is plain.
-/

namespace MyHomeHub.ScenariosService

open JavaScript Library

/-- The fields of a cron expression, as the cron packages read them. -/
def cronFields (cron : String) : List String :=
  (fields isWhitespace cron.toList).map String.ofList

/-- The adjusted expression has the minute and the hour of the time point and, behind them, the
day, month and weekday of the expression; a second adjustment to the same time changes nothing. -/
structure AdjustsTime (cron : String) (timePoint : Nat × Nat) : Prop where
  fields : cronFields (updateCronTime cron timePoint) =
    timePoint.2.repr :: timePoint.1.repr ::
      (cronFields cron).drop ((cronFields cron).length - 3)
  idempotent : updateCronTime (updateCronTime cron timePoint) timePoint =
    updateCronTime cron timePoint

/-- The number of the space behind which `updateCronTime` keeps the text: a text with exactly five
spaces has six pieces and is taken to begin with the second. -/
def keptBehind (cron : List Char) : Nat :=
  if cron.count ' ' = 5 then 3 else 2

/-- The `n`th space of a text stands in the whitespace before its last three fields. -/
def SpaceBeforeDay (n : Nat) (text : List Char) : Prop :=
  ∃ front gap back, text = front ++ gap ++ back ∧ (∀ c ∈ gap, isWhitespace c = true) ∧
    (fields isWhitespace back).length = 3 ∧
    front.count ' ' < n ∧ n ≤ (front ++ gap).count ' '

variable {cron : String} {timePoint : Nat × Nat} {front gap back text : List Char} {n : Nat}

/-! ## What is kept -/

theorem kept_behind_pos : 0 < keptBehind text := by
  unfold keptBehind
  split
  · exact Nat.succ_pos 2
  · exact Nat.succ_pos 1

/-- The expression as it is joined: minute, hour and the pieces that are left. -/
theorem update_cron_time_eq :
    (updateCronTime cron timePoint).toList =
      [' '].intercalate (timePoint.2.repr.toList :: timePoint.1.repr.toList ::
        (cron.toList.splitOn ' ').drop (keptBehind cron.toList)) := by
  have hparts : ∀ parts : List (List Char),
      (parts.map String.ofList).map String.toList = parts := by
    intro parts
    rw [List.map_map]
    exact List.map_id'' (fun piece => String.toList_ofList) parts
  unfold updateCronTime keptBehind
  rw [String.toList_intercalate, List.length_map, length_split_on]
  show [' '].intercalate _ = _
  split
  · rename_i hcount
    rw [if_pos (Nat.succ.inj hcount)]
    rw [List.drop_drop, ← List.map_drop, List.map_cons, List.map_cons, hparts]
  · rename_i hcount
    rw [if_neg fun h => hcount (congrArg Nat.succ h)]
    rw [← List.map_drop, List.map_cons, List.map_cons, hparts]

/-- The text behind the counted space is kept as it is. -/
theorem update_cron_time_cut (htext : cron.toList = front ++ ' ' :: back)
    (hcount : front.count ' ' + 1 = keptBehind cron.toList) :
    (updateCronTime cron timePoint).toList =
      timePoint.2.repr.toList ++ ' ' :: (timePoint.1.repr.toList ++ ' ' :: back) := by
  rw [update_cron_time_eq, ← hcount, htext, drop_split_on]
  rw [List.intercalate_cons_cons,
    List.intercalate_cons_of_ne_nil (List.splitOn_ne_nil ' ' back), List.intercalate_splitOn]
  show _ ++ [' '] ++ (_ ++ [' '] ++ back) = _
  rw [List.append_assoc, List.append_assoc]
  rfl

/-- Of a text with fewer spaces nothing is kept. -/
theorem update_cron_time_short (hcount : cron.toList.count ' ' < keptBehind cron.toList) :
    (updateCronTime cron timePoint).toList =
      timePoint.2.repr.toList ++ ' ' :: timePoint.1.repr.toList := by
  rw [update_cron_time_eq, List.drop_eq_nil_of_le (length_split_on.trans_le hcount)]
  rw [List.intercalate_cons_cons, List.intercalate_singleton, List.append_assoc]
  rfl

/-- A space behind which the text is kept is found, or the text has fewer spaces. -/
theorem cut_or_short (text : List Char) :
    (∃ front back, text = front ++ ' ' :: back ∧ front.count ' ' + 1 = keptBehind text) ∨
      text.count ' ' < keptBehind text := by
  by_cases hcount : text.count ' ' < keptBehind text
  · exact .inr hcount
  · left
    obtain ⟨n, hn⟩ : ∃ n, keptBehind text = n + 1 := Nat.exists_eq_add_one.mpr kept_behind_pos
    rw [hn] at hcount ⊢
    obtain ⟨front, back, htext, hfront⟩ := exists_cut_at (not_lt.mp hcount)
    exact ⟨front, back, htext, congrArg Nat.succ hfront⟩

/-! ## The fields of the result -/

theorem is_whitespace_space : isWhitespace ' ' = true := by
  decide

/-- The digits are the characters from 0x30 to 0x39, which lie between two of the ranges. -/
theorem digit_not_whitespace {c : Char} (hc : c ∈ n.repr.toList) : isWhitespace c = false := by
  rw [Nat.toList_repr] at hc
  have hdigit : c.isDigit = true := Nat.isDigit_of_mem_toDigits (by decide) (by decide) hc
  rw [Char.isDigit, Bool.and_eq_true, decide_eq_true_eq, decide_eq_true_eq] at hdigit
  have hlow : 0x30 ≤ c.val.toNat := UInt32.le_iff_toNat_le.mp hdigit.1
  have hhigh : c.val.toNat ≤ 0x39 := UInt32.le_iff_toNat_le.mp hdigit.2
  unfold isWhitespace
  simp only [List.mem_cons, List.not_mem_nil, or_false, Bool.or_eq_false_iff,
    decide_eq_false_iff_not, Bool.and_eq_false_iff, UInt32.le_iff_toNat_le,
    ← UInt32.toNat_inj, UInt32.reduceToNat]
  omega

/-- The digits of a number are one field. -/
theorem fields_repr : fields isWhitespace n.repr.toList = [n.repr.toList] := by
  refine fields_of_no_separator ?_ fun c => digit_not_whitespace
  rw [Nat.toList_repr]
  exact Nat.toDigits_ne_nil

theorem count_space_repr : n.repr.toList.count ' ' = 0 := by
  refine List.count_eq_zero.mpr fun hmem => ?_
  have hnot : isWhitespace ' ' = false := digit_not_whitespace hmem
  cases hnot

/-- A second adjustment replaces the time and nothing else. -/
theorem adjust_again :
    updateCronTime (updateCronTime cron timePoint) timePoint = updateCronTime cron timePoint := by
  apply String.toList_inj.mp
  obtain ⟨front, back, htext, hcount⟩ | hshort := cut_or_short cron.toList
  · have hadjusted : (updateCronTime cron timePoint).toList = _ :=
      update_cron_time_cut htext hcount
    have hspaces : (updateCronTime cron timePoint).toList.count ' ' = 2 + back.count ' ' := by
      rw [hadjusted, List.count_append, List.count_cons_self, List.count_append,
        List.count_cons_self, count_space_repr, count_space_repr]
      omega
    -- six pieces would be three kept ones, and these have come from six pieces themselves
    have hkept : keptBehind (updateCronTime cron timePoint).toList = 2 := by
      have hbefore : cron.toList.count ' ' = keptBehind cron.toList + back.count ' ' := by
        rw [← hcount, htext, List.count_append, List.count_cons_self]
        omega
      unfold keptBehind at hbefore ⊢
      split at hbefore
      · rw [if_neg (by omega)]
      · rw [if_neg (by omega)]
    have hagain : (updateCronTime cron timePoint).toList =
        (timePoint.2.repr.toList ++ ' ' :: timePoint.1.repr.toList) ++ ' ' :: back := by
      rw [hadjusted, List.append_assoc]
      rfl
    rw [update_cron_time_cut hagain, hadjusted]
    rw [hkept, List.count_append, List.count_cons_self, count_space_repr, count_space_repr]
  · have hadjusted : (updateCronTime cron timePoint).toList = _ :=
      update_cron_time_short hshort
    rw [update_cron_time_short, hadjusted]
    have hspaces : (updateCronTime cron timePoint).toList.count ' ' = 1 := by
      rw [hadjusted, List.count_append, List.count_cons_self, count_space_repr, count_space_repr]
    rw [hspaces]
    unfold keptBehind
    rw [hspaces, if_neg (by decide)]
    exact Nat.lt_succ_self 1

/-- The fields behind the time are those of the text that is kept. -/
theorem fields_update_cut (htext : cron.toList = front ++ ' ' :: back)
    (hcount : front.count ' ' + 1 = keptBehind cron.toList) :
    cronFields (updateCronTime cron timePoint) =
      timePoint.2.repr :: timePoint.1.repr ::
        (fields isWhitespace back).map String.ofList := by
  rw [cronFields, update_cron_time_cut htext hcount]
  rw [fields_append_separator is_whitespace_space, fields_append_separator is_whitespace_space,
    fields_repr, fields_repr]
  simp only [List.cons_append, List.nil_append, List.map_cons, String.ofList_toList]

/-- Behind a text with fewer spaces there are no fields. -/
theorem fields_update_short (hshort : cron.toList.count ' ' < keptBehind cron.toList) :
    cronFields (updateCronTime cron timePoint) = [timePoint.2.repr, timePoint.1.repr] := by
  rw [cronFields, update_cron_time_short hshort]
  rw [fields_append_separator is_whitespace_space, fields_repr, fields_repr]
  simp only [List.cons_append, List.nil_append, List.map_cons, List.map_nil, String.ofList_toList]

theorem space_before_day_iff :
    SpaceBeforeDay n text ↔ ∃ front back, text = front ++ ' ' :: back ∧
      front.count ' ' + 1 = n ∧ (fields isWhitespace back).length = 3 := by
  constructor
  · rintro ⟨front, gap, back, rfl, hgap, hthree, hbefore, hwithin⟩
    rw [List.count_append] at hwithin
    have hinside : n - front.count ' ' - 1 < gap.count ' ' := by omega
    obtain ⟨skipped, rest, rfl, hskipped⟩ := exists_cut_at hinside
    refine ⟨front ++ skipped, rest ++ back, ?_, ?_, ?_⟩
    · rw [List.append_assoc, List.append_assoc, List.append_assoc]
      rfl
    · rw [List.count_append]
      omega
    · rw [fields_skip_separators fun c hc =>
        hgap c (List.mem_append_right skipped (List.mem_cons_of_mem ' ' hc))]
      exact hthree
  · rintro ⟨front, back, rfl, rfl, hthree⟩
    refine ⟨front, [' '], back, List.append_cons front ' ' back,
      List.forall_mem_singleton.mpr is_whitespace_space, hthree, Nat.lt_succ_self _, ?_⟩
    rw [List.count_append]
    exact Nat.le_refl _

/-- The adjusted expression has the day, month and weekday of an expression with five or six fields
exactly when the space behind which it is kept stands right before the day. -/
theorem adjusts_time_iff
    (hfields : (cronFields cron).length = 5 ∨ (cronFields cron).length = 6) :
    AdjustsTime cron timePoint ↔ SpaceBeforeDay (keptBehind cron.toList) cron.toList := by
  have hthree : 3 ≤ (cronFields cron).length := by omega
  rw [space_before_day_iff]
  constructor
  · intro hadjusts
    have hlength : (cronFields (updateCronTime cron timePoint)).length = 5 := by
      rw [hadjusts.fields, List.length_cons, List.length_cons, List.length_drop]
      omega
    obtain ⟨front, back, htext, hcount⟩ | hshort := cut_or_short cron.toList
    · refine ⟨front, back, htext, hcount, ?_⟩
      rw [fields_update_cut htext hcount, List.length_cons, List.length_cons,
        List.length_map] at hlength
      exact Nat.succ.inj (Nat.succ.inj hlength)
    · rw [fields_update_short hshort] at hlength
      cases hlength
  · rintro ⟨front, back, htext, hcount, hback⟩
    refine ⟨?_, adjust_again⟩
    rw [fields_update_cut htext hcount]
    refine congrArg (fun kept => timePoint.2.repr :: timePoint.1.repr :: kept) ?_
    have hcron : cronFields cron = (fields isWhitespace front).map String.ofList ++
        (fields isWhitespace back).map String.ofList := by
      rw [cronFields, htext, fields_append_separator is_whitespace_space, List.map_append]
    rw [hcron]
    refine (List.drop_left' ?_).symm
    rw [List.length_append, List.length_map, List.length_map, hback]
    exact (Nat.add_sub_cancel _ 3).symm

/-- At the sunrise of 6:30 in the morning, plain spacing keeps the day. -/
theorem adjusts_time_iff_plain : AdjustsTime "0 7 1 * MON" (6, 30) :=
  (adjusts_time_iff (.inl (by decide +kernel))).mpr
    ⟨"0 7".toList, [' '], "1 * MON".toList, by decide +kernel,
      List.forall_mem_singleton.mpr is_whitespace_space, by decide +kernel, by decide +kernel,
      by decide +kernel⟩

/-- A second blank before the day makes six pieces of five fields, and the month is lost. -/
theorem second_blank_loses_day :
    ¬ ∀ cron timePoint, (cronFields cron).length = 5 ∨ (cronFields cron).length = 6 →
      AdjustsTime cron timePoint := by
  intro hall
  have hcron : (cronFields "0 7 1  * MON").length = 5 := by decide +kernel
  have hadjusted : cronFields (updateCronTime "0 7 1  * MON" (6, 30)) ≠
      "30" :: "6" :: (cronFields "0 7 1  * MON").drop ((cronFields "0 7 1  * MON").length - 3) := by
    decide +kernel
  exact hadjusted (hall _ _ (.inl hcron)).fields

end MyHomeHub.ScenariosService
