import Mathlib.Data.Set.Function
import Intake.Proofs.Partitions
import Intake.Proofs.Source.Predicate

/-!
# Conditions tell partition keys apart

The keys of a table stand in its condition as they are, twice each, among quotes, braces and blanks
that have a meaning there. A key with blanks could pass for several comparisons
(`partitionPredicate?_imitation`). The keys of a table have none, but may have all of the other
characters: `Declaration.exists_partitions_eq_ok_iff` says which lists of keys there are. Since the
blanks are left to the condition, its words can be found, and the keys be read off the first word of
each comparison (`leftInvOn_partitionPredicate?`). So a condition belongs to one list of keys
(`partitionPredicate?_injOn`), and tables whose tests have the same condition have the same keys
(`Mapping.testCondition_eq_iff_of_build`).
-/

namespace Intake

variable {keys : List String}

/-! ## Keys that can be declared -/

/-- The lists of names that columns may have. -/
def columnNameLists : Set (List String) := {keys | ∀ key ∈ keys, IsColumnName key}

theorem declaredKeys_eq_self (h : ∀ key ∈ keys, key ≠ "" ∧ Text.lower (Text.trim key) = key) :
    declaredKeys keys = keys := by
  have hmap : (keys.map fun key => Text.lower (Text.trim key)) = keys :=
    (List.map_congr_left fun key hkey => (h key hkey).2).trans (List.map_id keys)
  rw [declaredKeys, hmap, List.filter_eq_self]
  exact fun key hkey => by simpa using (h key hkey).1

namespace Declaration

/-- The lists of keys that a table can have: column names that are trimmed and in lower case. -/
theorem exists_partitions_eq_ok_iff : (∃ d target config, partitions d target config = .ok keys) ↔
    ∀ key ∈ keys, IsColumnName key ∧ Text.lower (Text.trim key) = key := by
  constructor
  · rintro ⟨d, target, config, h⟩ key hkey
    refine ⟨isColumnName_partition h hkey, ?_⟩
    rw [(partitions_eq_ok_iff.1 h).1] at hkey
    obtain ⟨name, -, rfl⟩ := List.mem_map.1 (List.mem_filter.1 hkey).1
    rw [Text.trim_lower_trim, Text.lower_lower]
  · -- a worksheet that declares no keys, under a configuration that has these
    intro h
    have hunset : bare.setting? "partitions" = none := by decide +kernel
    refine ⟨bare, "", { defaultPartitions := keys }, partitions_eq_ok_iff.2 ⟨?_, ?_⟩⟩
    · rw [partitionKeys_of_unset hunset]
      exact (declaredKeys_eq_self fun key hkey => ⟨(h key hkey).1.ne_empty, (h key hkey).2⟩).symm
    · exact fun key hkey => (isColumnName_iff.1 (h key hkey).1).2

end Declaration

/-! ## Keys in a condition -/

/-- A comparison up to the second place of its key. -/
def halfComparison (key : String) : String := key ++ "='\x7b\x7b var('" ++ key

/-- If keys had blanks, a single key could stand for three. -/
theorem partitionPredicate?_imitation (key : String) :
    partitionPredicate? [halfComparison key ++ "') \x7d\x7d' and " ++ halfComparison key] =
      partitionPredicate? [key, halfComparison key, key] := by
  have hsplit : ∀ s : String, "') \x7d\x7d' and " ++ s = "') \x7d\x7d'" ++ (" and " ++ s) :=
    fun s => by rw [← String.append_assoc]; rfl
  simp [partitionPredicate?, partitionComparison, halfComparison, String.append_assoc, hsplit]

/-- The keys of a table can be read off its condition; without one there are none. -/
theorem leftInvOn_partitionPredicate? :
    Set.LeftInvOn (fun condition? => condition?.elim [] comparedKeys) partitionPredicate?
      columnNameLists := by
  intro keys hkeys
  cases hcondition : partitionPredicate? keys with
  | none => exact (partitionPredicate?_eq_none_iff.1 hcondition).symm
  | some condition => exact comparedKeys_eq hcondition fun key hkey => (hkeys key hkey).no_space

/-- A condition belongs to one list of keys.

The lists of keys of tables are lists of column names, trimmed and in lower case, and of all lists
of column names no two have the same condition: the keys, in order, are read off its words. There is
no condition exactly when there are no keys. -/
theorem partitionPredicate?_injOn :
    (∀ keys, (∃ d target config, Declaration.partitions d target config = .ok keys) ↔
      keys ∈ columnNameLists ∧ ∀ key ∈ keys, Text.lower (Text.trim key) = key) ∧
    Set.InjOn partitionPredicate? columnNameLists ∧
    (∀ keys ∈ columnNameLists, ∀ condition, partitionPredicate? keys = some condition →
      comparedKeys condition = keys) ∧
    ∀ keys, partitionPredicate? keys = none ↔ keys = [] := by
  refine ⟨fun keys => ?_, leftInvOn_partitionPredicate?.injOn, fun keys hkeys condition h => ?_,
    fun keys => partitionPredicate?_eq_none_iff⟩
  · rw [Declaration.exists_partitions_eq_ok_iff]
    exact forall₂_and
  · have hread := leftInvOn_partitionPredicate? hkeys
    rwa [h] at hread

/-- Keys that look like the words of a condition. -/
def wordsAsKeys : List String := ["year='\x7b\x7b", "var('year')", "\x7d\x7d'", "and"]

theorem partitionPredicate?_injOn_wordsAsKeys :
    Declaration.bare.partitions "sales_orders" { defaultPartitions := wordsAsKeys } =
      .ok wordsAsKeys ∧
    partitionPredicate? wordsAsKeys ≠ partitionPredicate? wordsAsKeys.reverse ∧
    ∀ condition, partitionPredicate? wordsAsKeys = some condition →
      comparedKeys condition = wordsAsKeys := by
  have hok : Declaration.bare.partitions "sales_orders" { defaultPartitions := wordsAsKeys } =
      .ok wordsAsKeys := by decide +kernel
  obtain ⟨hlists, hinj, hread, -⟩ := partitionPredicate?_injOn
  have hkeys : wordsAsKeys ∈ columnNameLists := ((hlists wordsAsKeys).1 ⟨_, _, _, hok⟩).1
  have hreverse : wordsAsKeys.reverse ∈ columnNameLists :=
    fun key hkey => hkeys key (List.mem_reverse.1 hkey)
  exact ⟨hok, fun h => absurd (hinj hkeys hreverse h) (by decide), hread wordsAsKeys hkeys⟩

/-! ## Conditions of tables -/

/-- The tests of two tables, of one mapping or of two, have the same condition exactly when the
tables have the same partition keys. -/
theorem Mapping.testCondition_eq_iff_of_build {sheets sheets' : List Worksheet}
    {flow flow' : String} {config config' : Config} {m m' : Mapping} {t t' : Table}
    (h : build sheets flow config = .ok m) (ht : t ∈ m.tables)
    (h' : build sheets' flow' config' = .ok m') (ht' : t' ∈ m'.tables) :
    t.testCondition = t'.testCondition ↔ t.partitions = t'.partitions := by
  have hkeys : t.partitions ∈ columnNameLists :=
    fun _ hkey => isColumnName_of_mem_partitions h ht hkey
  have hkeys' : t'.partitions ∈ columnNameLists :=
    fun _ hkey => isColumnName_of_mem_partitions h' ht' hkey
  exact leftInvOn_partitionPredicate?.injOn.eq_iff hkeys hkeys'

end Intake
