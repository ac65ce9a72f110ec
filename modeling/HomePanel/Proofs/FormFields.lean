import Mathlib
import HomePanel.Proofs.ParamMap

/-!
# Form fields as parameters

Writing a name into a parameter map is seen through lookups alone: the written name
gives the new value and every other name keeps its own (`get?_insert`). Because the
entries are kept sorted with each name once, lookups also decide the whole map
(`ext_get?`).

A form's fields become parameters by grouping their values by name: the grouping fold keeps
the groups sorted by name (`groupValues_sorted`) and a name's group is its values in the
order the fields came (`lookup_groupValues`). Each group then becomes one text, a single
value as it is and several joined by commas. So the map holds exactly the names of the
fields, and each name's value is the text of its values joined by commas, in field order.
What the map holds depends only on the values of each name in their order, so reordering
the fields while keeping the order among fields of one name gives the same map
(`ofFormEntries_joins_values_by_name`).
-/

namespace HomePanel
namespace ParamMap

/-! ## Writing a name -/

theorem find?_cons_name (key k : String) (value : ParamValue)
    (entries : List (String × ParamValue)) :
    ((key, value) :: entries).find? (fun e => e.1 == k) =
      if k = key then some (key, value) else entries.find? (fun e => e.1 == k) := by
  by_cases hk : k = key
  · subst hk
    simp
  · simp [hk, Ne.symm hk]

theorem find?_insertEntry (key k : String) (value : ParamValue)
    (entries : List (String × ParamValue)) :
    (insertEntry key value entries).find? (fun e => e.1 == k) =
      if k = key then some (key, value) else entries.find? (fun e => e.1 == k) := by
  induction entries with
  | nil => exact find?_cons_name key k value []
  | cons entry rest ih =>
      obtain ⟨k', v'⟩ := entry
      simp only [insertEntry]
      split
      · exact find?_cons_name key k value _
      · split
        · -- the written name replaces an entry of the same name
          rename_i heq
          subst heq
          rw [find?_cons_name, find?_cons_name]
          by_cases hk : k = key <;> simp [hk]
        · -- the written name goes further on, past an entry of another name
          rename_i _ hne
          rw [List.find?_cons, ih, List.find?_cons]
          by_cases hk : k = key
          · subst hk
            have hk' : (k' == k) = false := beq_false_of_ne (Ne.symm hne)
            simp [hk']
          · simp [hk]

@[simp] theorem get?_insert (m : ParamMap) (key k : String) (value : ParamValue) :
    (m.insert key value).get? k = if k = key then some value else m.get? k := by
  simp only [get?, insert, find?_insertEntry]
  split <;> simp

/-! ## Equality through lookups -/

theorem nodup_toList (m : ParamMap) : m.toList.Nodup :=
  m.toList_sorted.imp fun h heq => String.ne_of_lt h (congrArg Prod.fst heq)

/-- Two maps that agree on every lookup are equal: sorted entries with each name once are
determined by the pairs they hold. -/
theorem ext_get? {m m' : ParamMap} (h : ∀ k, m.get? k = m'.get? k) : m = m' := by
  have hmem : ∀ e, e ∈ m.toList ↔ e ∈ m'.toList := by
    intro e
    rw [← get?_eq_some_iff, ← get?_eq_some_iff, h]
  have hperm := (List.perm_ext_iff_of_nodup m.nodup_toList m'.nodup_toList).mpr hmem
  have hentries : m.toList = m'.toList :=
    hperm.eq_of_pairwise (fun _ _ _ _ hab hba => absurd (String.lt_trans hab hba)
      (String.lt_irrefl _)) m.toList_sorted m'.toList_sorted
  cases m
  cases m'
  simpa [toList] using hentries

theorem mem_names_iff (m : ParamMap) (k : String) :
    k ∈ m.toList.map Prod.fst ↔ (m.get? k).isSome := by
  rw [Option.isSome_iff_exists]
  simp only [get?_eq_some_iff, List.mem_map]
  constructor
  · rintro ⟨⟨k', v⟩, hmem, rfl⟩
    exact ⟨v, hmem⟩
  · rintro ⟨v, hmem⟩
    exact ⟨(k, v), hmem, rfl⟩

/-! ## Grouping form values -/

/-- Writing each name of a list, with a value that depends on the name only: a written name
reads its value, any other keeps the start's. -/
theorem get?_foldl_insert {β : Type} (l : List (String × β)) (val : String → ParamValue)
    (m : ParamMap) (k : String) :
    (l.foldl (fun m e => m.insert e.1 (val e.1)) m).get? k =
      if k ∈ l.map Prod.fst then some (val k) else m.get? k := by
  induction l generalizing m with
  | nil => simp
  | cons e l ih =>
      rw [List.foldl_cons, ih, get?_insert]
      by_cases hl : k ∈ l.map Prod.fst
      · simp [hl]
      · by_cases hk : k = e.1 <;> simp [hl, hk]

theorem mem_pushValue {name value : String} {groups : List (String × List String)}
    {g : String × List String} (hg : g ∈ pushValue name value groups) :
    g.1 = name ∨ g.1 ∈ groups.map Prod.fst := by
  induction groups with
  | nil =>
      simp only [pushValue, List.mem_singleton] at hg
      exact .inl (by rw [hg])
  | cons group rest ih =>
      obtain ⟨k, values⟩ := group
      simp only [pushValue] at hg
      split at hg
      · rcases List.mem_cons.mp hg with h | h
        · exact .inl (by rw [h])
        · exact .inr (List.mem_map_of_mem h)
      · split at hg
        · rcases List.mem_cons.mp hg with h | h
          · exact .inr (by simp [h])
          · exact .inr (List.mem_map_of_mem (List.mem_cons_of_mem _ h))
        · rcases List.mem_cons.mp hg with h | h
          · exact .inr (by simp [h])
          · rcases ih h with h' | h'
            · exact .inl h'
            · exact .inr (List.mem_cons_of_mem _ h')

theorem pushValue_sorted (name value : String) {groups : List (String × List String)}
    (hsorted : groups.Pairwise (fun a b => a.1 < b.1)) :
    (pushValue name value groups).Pairwise (fun a b => a.1 < b.1) := by
  induction groups with
  | nil => simp [pushValue]
  | cons group rest ih =>
      obtain ⟨k, values⟩ := group
      rw [List.pairwise_cons] at hsorted
      obtain ⟨hhead, hrest⟩ := hsorted
      simp only [pushValue]
      split
      · next hlt =>
          refine List.Pairwise.cons ?_ (List.Pairwise.cons hhead hrest)
          intro g hg
          rcases List.mem_cons.mp hg with h | h
          · rw [h]
            exact hlt
          · exact String.lt_trans hlt (hhead g h)
      · split
        · exact List.Pairwise.cons hhead hrest
        · next hlt hne =>
            have hkey : k < name :=
              Std.lt_of_le_of_ne (String.not_lt.mp hlt) (Ne.symm hne)
            refine List.Pairwise.cons ?_ (ih hrest)
            intro g hg
            rcases mem_pushValue hg with h | h
            · rw [h]
              exact hkey
            · obtain ⟨g', hg', hkey'⟩ := List.mem_map.mp h
              rw [← hkey']
              exact hhead g' hg'

theorem groupValues_sorted (entries : List (String × String)) :
    (groupValues entries).Pairwise (fun a b => a.1 < b.1) := by
  suffices h : ∀ groups : List (String × List String),
      groups.Pairwise (fun a b => a.1 < b.1) →
        (entries.foldl (fun groups e => pushValue e.1 e.2 groups) groups).Pairwise
          (fun a b => a.1 < b.1) from h [] List.Pairwise.nil
  induction entries with
  | nil => exact fun _ h => h
  | cons e entries ih => exact fun groups h => ih _ (pushValue_sorted e.1 e.2 h)

/-- In sorted groups a name below the first one has no group. -/
theorem lookup_eq_none_of_lt {name k : String} {values : List String}
    {rest : List (String × List String)}
    (hsorted : ((k, values) :: rest).Pairwise (fun a b => a.1 < b.1)) (hlt : name < k) :
    ((k, values) :: rest).lookup name = none := by
  rw [List.lookup_eq_none_iff]
  intro g hg
  have hle : k ≤ g.1 := by
    rcases List.mem_cons.mp hg with h | h
    · exact le_of_eq (by rw [h])
    · exact le_of_lt ((List.pairwise_cons.mp hsorted).1 g h)
  have hne : name ≠ g.1 := ne_of_lt (lt_of_lt_of_le hlt hle)
  simpa using hne

theorem lookup_pushValue (name value k : String) {groups : List (String × List String)}
    (hsorted : groups.Pairwise (fun a b => a.1 < b.1)) :
    (pushValue name value groups).lookup k =
      if k = name then some ((groups.lookup k).getD [] ++ [value]) else groups.lookup k := by
  induction groups with
  | nil => by_cases hk : k = name <;> simp [pushValue, hk]
  | cons group rest ih =>
      obtain ⟨k', values⟩ := group
      have hrest := (List.pairwise_cons.mp hsorted).2
      simp only [pushValue]
      split
      · next hlt =>
          by_cases hk : k = name
          · subst hk
            simp [lookup_eq_none_of_lt hsorted hlt]
          · simp [List.lookup_cons, beq_false_of_ne hk, hk]
      · split
        · next _ heq =>
            subst heq
            by_cases hk : k = name
            · simp [hk]
            · simp [List.lookup_cons, beq_false_of_ne hk, hk]
        · next _ hne =>
            rw [List.lookup_cons, List.lookup_cons, ih hrest]
            by_cases hk : k = k'
            · subst hk
              simp [Ne.symm hne]
            · simp [beq_false_of_ne hk]

/-- The group of a name after the grouping fold: its values, in order, after those it had. -/
theorem lookup_foldl_pushValue (entries : List (String × String))
    {groups : List (String × List String)} (hsorted : groups.Pairwise (fun a b => a.1 < b.1))
    (k : String) :
    (entries.foldl (fun groups e => pushValue e.1 e.2 groups) groups).lookup k =
      if k ∈ entries.map Prod.fst then
        some ((groups.lookup k).getD [] ++ (entries.filter (·.1 == k)).map Prod.snd)
      else groups.lookup k := by
  induction entries generalizing groups with
  | nil => simp
  | cons e entries ih =>
      rw [List.foldl_cons, ih (pushValue_sorted e.1 e.2 hsorted), lookup_pushValue _ _ _ hsorted]
      by_cases hin : k ∈ entries.map Prod.fst
      · by_cases hk : k = e.1
        · subst hk
          simp [hin]
        · simp [hin, hk, beq_false_of_ne (Ne.symm hk)]
      · have hnone : entries.filter (·.1 == k) = [] := by
          rw [List.filter_eq_nil_iff]
          intro g hg hkey
          exact hin (List.mem_map.mpr ⟨g, hg, by simpa using hkey⟩)
        by_cases hk : k = e.1
        · subst hk
          simp [hin, hnone]
        · simp [hin, hk]

theorem lookup_groupValues (entries : List (String × String)) (k : String) :
    (groupValues entries).lookup k =
      if k ∈ entries.map Prod.fst then some ((entries.filter (·.1 == k)).map Prod.snd)
      else none := by
  rw [groupValues, lookup_foldl_pushValue entries List.Pairwise.nil]
  simp

/-- In sorted groups every group is the one its name looks up. -/
theorem lookup_of_mem {groups : List (String × List String)}
    (hsorted : groups.Pairwise (fun a b => a.1 < b.1)) {g : String × List String}
    (hg : g ∈ groups) : groups.lookup g.1 = some g.2 := by
  obtain ⟨k, values⟩ := g
  induction groups with
  | nil => simp at hg
  | cons group rest ih =>
      rcases List.mem_cons.mp hg with h | h
      · subst h
        simp
      · have hne : k ≠ group.1 :=
          Ne.symm (String.ne_of_lt ((List.pairwise_cons.mp hsorted).1 (k, values) h))
        rw [List.lookup_cons, beq_false_of_ne hne]
        exact ih (List.pairwise_cons.mp hsorted).2 h

/-- The groups carry exactly the names of the fields. -/
theorem mem_names_groupValues (entries : List (String × String)) (name : String) :
    name ∈ (groupValues entries).map Prod.fst ↔ name ∈ entries.map Prod.fst := by
  have hsorted := groupValues_sorted entries
  constructor
  · intro h
    obtain ⟨g, hg, hkey⟩ := List.mem_map.mp h
    have hlookup := lookup_of_mem hsorted hg
    rw [hkey, lookup_groupValues] at hlookup
    by_contra hn
    simp [hn] at hlookup
  · intro h
    have hsome : ((groupValues entries).lookup name).isSome := by
      rw [lookup_groupValues]
      simp [h]
    obtain ⟨g, hg, hkey⟩ := List.lookup_isSome_iff.mp hsome
    exact List.mem_map.mpr ⟨g, hg, (beq_iff_eq.mp hkey).symm⟩

theorem joinValues_eq (values : List String) : joinValues values = ",".intercalate values := by
  unfold joinValues
  split
  · exact String.intercalate_singleton.symm
  · rfl

theorem get?_ofFormEntries (entries : List (String × String)) (name : String) :
    (ofFormEntries entries).get? name =
      if name ∈ entries.map Prod.fst then
        some (.text (",".intercalate ((entries.filter (·.1 == name)).map Prod.snd)))
      else none := by
  have hsorted := groupValues_sorted entries
  have hvalues : (groupValues entries).map (fun g => (g.1, ParamValue.text (joinValues g.2))) =
      (groupValues entries).map fun g =>
        (g.1, ParamValue.text (joinValues (((groupValues entries).lookup g.1).getD []))) :=
    List.map_congr_left fun g hg => by rw [lookup_of_mem hsorted hg]; rfl
  rw [ofFormEntries, hvalues, ofList, List.foldl_map]
  dsimp only
  rw [get?_foldl_insert _
    (fun n => .text (joinValues (((groupValues entries).lookup n).getD [])))]
  simp only [mem_names_groupValues, lookup_groupValues]
  split
  · simp [joinValues_eq]
  · rfl

/-- The fields' map has a key for each field name and no other; a name's value is the text of
its values, comma-joined in field order, so a name given once keeps its value; and any
reordering that keeps the order among fields of one name gives the same map. -/
theorem ofFormEntries_joins_values_by_name (entries : List (String × String)) :
    (∀ name, name ∈ (ofFormEntries entries).toList.map Prod.fst ↔
      name ∈ entries.map Prod.fst) ∧
    (∀ name, name ∈ entries.map Prod.fst → (ofFormEntries entries).get? name =
      some (.text (",".intercalate ((entries.filter (·.1 == name)).map Prod.snd)))) ∧
    (∀ name value, (entries.filter (·.1 == name)).map Prod.snd = [value] →
      (ofFormEntries entries).get? name = some (.text value)) ∧
    ∀ entries' : List (String × String),
      (∀ name, entries'.filter (·.1 == name) = entries.filter (·.1 == name)) →
        ofFormEntries entries' = ofFormEntries entries := by
  have hnames : ∀ (l : List (String × String)) name,
      name ∈ l.map Prod.fst ↔ (l.filter (·.1 == name)).map Prod.snd ≠ [] := by
    intro l name
    simp [List.filter_eq_nil_iff]
  refine ⟨fun name => ?_, fun name hname => ?_, fun name value hone => ?_,
    fun entries' hsame => ext_get? fun name => ?_⟩
  · rw [mem_names_iff, get?_ofFormEntries]
    split <;> simp_all
  · rw [get?_ofFormEntries, if_pos hname]
  · have hname : name ∈ entries.map Prod.fst := by
      rw [hnames, hone]
      simp
    rw [get?_ofFormEntries, if_pos hname, hone]
    rfl
  · have hmem : name ∈ entries'.map Prod.fst ↔ name ∈ entries.map Prod.fst := by
      rw [hnames, hnames, hsame]
    rw [get?_ofFormEntries, get?_ofFormEntries, hsame]
    simp only [hmem]

example : ofFormEntries [("tags", "a"), ("id", "d1"), ("tags", "b")] =
    ofFormEntries [("id", "d1"), ("tags", "a"), ("tags", "b")] := by decide

end ParamMap
end HomePanel
