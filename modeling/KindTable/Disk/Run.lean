import KindTable.Disk.Basic

namespace KindTable.Disk

variable {ε ε' α β : Type}

def run (d : Disk) (program : ExceptT ε (StateM Disk) α) : Except ε α × Disk := (program.run.run d).run

theorem run_bind_ok {d d' : Disk} {program : ExceptT ε (StateM Disk) α} {a : α} (h : d.run program = (.ok a, d'))
    (next : α → ExceptT ε (StateM Disk) β) : d.run (program >>= next) = d'.run (next a) := by
  change (ExceptT.bindCont next (d.run program).1).run (d.run program).2 = _
  rw [h]
  rfl

theorem run_bind_error {d d' : Disk} {program : ExceptT ε (StateM Disk) α} {e : ε}
    (h : d.run program = (.error e, d')) (next : α → ExceptT ε (StateM Disk) β) :
    d.run (program >>= next) = (.error e, d') := by
  change (ExceptT.bindCont next (d.run program).1).run (d.run program).2 = _
  rw [h]
  rfl

theorem run_map_ok {d d' : Disk} {program : ExceptT ε (StateM Disk) α} {a : α} (h : d.run program = (.ok a, d'))
    (f : α → β) : d.run (f <$> program) = (.ok (f a), d') := by
  rw [map_eq_pure_bind, run_bind_ok h]
  rfl

theorem run_adapt (d : Disk) (program : ExceptT ε (StateM Disk) α) (f : ε → ε') :
    d.run (program.adapt f) = ((d.run program).1.mapError f, (d.run program).2) := rfl

theorem run_mk_bind (d : Disk) (access : StateM Disk β) (next : β → StateM Disk (Except ε α)) :
    d.run (ExceptT.mk (access >>= next)) = (access d).2.run (ExceptT.mk (next (access d).1)) := rfl

theorem run_readText_bind (d : Disk) (path : String) (next : Except DiskFault String → StateM Disk (Except ε α)) :
    d.run (ExceptT.mk (readText path >>= next)) = d.run (ExceptT.mk (next (d.read path))) := rfl

end KindTable.Disk
