import HomePanel.Params
import Mathlib.Data.List.Nodup

/-!
# Lookup and removal in parameter maps

A parameter map is read through its entries (`toList`), whose names strictly
increase. Looking a name up finds its entry; taking a name out gives that value
and keeps the other entries in their order. Names taken out one after another
leave exactly the entries whose name is none of them, and a name that was taken
out before is absent when it is looked up again.
-/

namespace HomePanel
namespace ParamMap

theorem toList_sorted (m : ParamMap) : m.toList.Pairwise (fun a b => a.1 < b.1) :=
  m.sorted

@[simp] theorem take_fst (m : ParamMap) (key : String) : (m.take key).1 = m.get? key := rfl

@[simp] theorem toList_take_snd (m : ParamMap) (key : String) :
    (m.take key).2.toList = m.toList.filter (fun e => e.1 != key) := rfl

theorem get?_eq_find? (m : ParamMap) (key : String) :
    m.get? key = (m.toList.find? (fun e => e.1 == key)).map Prod.snd := rfl

theorem get?_eq_some_iff (m : ParamMap) (key : String) (value : ParamValue) :
    m.get? key = some value ↔ (key, value) ∈ m.toList := by
  have hnodup : (m.toList.map Prod.fst).Nodup := by
    rw [List.Nodup, List.pairwise_map]
    exact m.toList_sorted.imp (fun h => String.ne_of_lt h)
  constructor
  · intro h
    rw [get?_eq_find?, Option.map_eq_some_iff] at h
    obtain ⟨e, hfind, hvalue⟩ := h
    have hmem := List.mem_of_find?_eq_some hfind
    have hkey : e.1 = key := by simpa using List.find?_some hfind
    rw [← hkey, ← hvalue]
    exact hmem
  · intro h
    rw [get?_eq_find?, Option.map_eq_some_iff]
    obtain ⟨e, hfind⟩ : ∃ e, m.toList.find? (fun e => e.1 == key) = some e := by
      apply Option.isSome_iff_exists.mp
      rw [List.find?_isSome]
      exact ⟨(key, value), h, by simp⟩
    have hkey : e.1 = key := by simpa using List.find?_some hfind
    have hmem := List.mem_of_find?_eq_some hfind
    have hsame : e = (key, value) := List.inj_on_of_nodup_map hnodup hmem h hkey
    exact ⟨e, hfind, by rw [hsame]⟩

/-! ## Removing names -/

/-- Looking a name up among the entries outside `names`. -/
theorem find?_filter_not_mem (entries : List (String × ParamValue)) (names : List String)
    (key : String) :
    (entries.filter (fun e => e.1 ∉ names)).find? (fun e => e.1 == key) =
      if key ∈ names then none else entries.find? (fun e => e.1 == key) := by
  rw [List.find?_filter]
  split
  · next hkey =>
      rw [List.find?_eq_none]
      intro e _ hboth
      simp only [decide_eq_true_eq, beq_iff_eq] at hboth
      exact (by simpa using hboth.1 : e.1 ∉ names) (hboth.2 ▸ hkey)
  · next hkey =>
      congr 1
      funext e
      by_cases he : e.1 = key
      · simp [he, hkey]
      · simp [he]

theorem filter_not_mem_filter_ne (entries : List (String × ParamValue))
    (names : List String) (key : String) :
    (entries.filter (fun e => e.1 ∉ names)).filter (fun e => e.1 != key) =
      entries.filter (fun e => e.1 ∉ names ++ [key]) := by
  rw [List.filter_filter]
  apply List.filter_congr
  intro e _
  by_cases he : e.1 = key
  · simp [he]
  · simp [he]

/-- Taking a name out of a map that holds the entries of `m` outside `seen`: the
value is the one in `m` unless the name was seen, and the entries left are those
outside `seen` and the name. -/
theorem take_of_toList_eq_filter {m m' : ParamMap} {seen : List String}
    (hm' : m'.toList = m.toList.filter (fun e => e.1 ∉ seen)) (key : String) :
    (m'.take key).1 = (if key ∈ seen then none else m.get? key) ∧
      (m'.take key).2.toList = m.toList.filter (fun e => e.1 ∉ seen ++ [key]) := by
  constructor
  · rw [take_fst, get?_eq_find?, hm', find?_filter_not_mem]
    split
    · rfl
    · rw [get?_eq_find?]
  · rw [toList_take_snd, hm', filter_not_mem_filter_ne]

end ParamMap
end HomePanel
