import Specimen.Store.Basic

namespace Specimen.Store

abbrev Datasets := SortedMap Dataset

def memory : Store (StateM Datasets) where
  put key records := ExceptT.mk fun m => (.ok key, m.insert key records)
  get key := ExceptT.mk fun m =>
    match m.find? key with
    | some records => (.ok records, m)
    | none => (.error (.notFound key), m)
  list := ExceptT.mk fun m => (.ok m.keys, m)
  delete key := ExceptT.mk fun m =>
    if m.contains key then (.ok (), m.erase key) else (.error (.notFound key), m)

variable {m : Datasets} {key : String}

theorem run_get_of_find? {records : Dataset} (h : m.find? key = some records) :
    (memory.get key).run m = (.ok records, m) := by
  simp only [memory, h, ExceptT.run_mk]

theorem run_get_of_find?_eq_none (h : m.find? key = none) :
    (memory.get key).run m = (.error (.notFound key), m) := by
  simp only [memory, h, ExceptT.run_mk]

theorem run_delete_of_find? {records : Dataset} (h : m.find? key = some records) :
    (memory.delete key).run m = (.ok (), m.erase key) := by
  simp only [memory, SortedMap.contains, h, ExceptT.run_mk]
  rfl

theorem run_delete_of_find?_eq_none (h : m.find? key = none) :
    (memory.delete key).run m = (.error (.notFound key), m) := by
  simp only [memory, SortedMap.contains, h, ExceptT.run_mk]
  rfl

end Specimen.Store
