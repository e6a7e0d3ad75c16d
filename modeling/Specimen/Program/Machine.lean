import Specimen.Files.Access

namespace Specimen

class Console (m : Type → Type) where
  print : String → m Unit
  report : String → m Unit

structure Machine where
  disk : Files.Disk := .empty
  output : String := ""
  errors : String := ""

namespace Machine

instance : Files.Access (StateM Machine) where
  call c := fun w =>
    match c.run w.disk with
    | (answer, disk) => (answer, { w with disk })

instance : Console (StateM Machine) where
  print s := fun w => ((), { w with output := w.output ++ s })
  report s := fun w => ((), { w with errors := w.errors ++ s })

end Machine

end Specimen
