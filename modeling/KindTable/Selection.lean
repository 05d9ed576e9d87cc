import KindTable.Bisect
import KindTable.Outcome
import KindTable.Registry

namespace KindTable

inductive SoftFallback where
  | keep
  | drop
  deriving DecidableEq, Repr

def SoftFallback.text : SoftFallback → String
  | keep => "include"
  | drop => "exclude"

inductive Inclusion where
  | always
  | gateOn
  | softFallback
  | excluded
  deriving DecidableEq, Repr

namespace Inclusion

def isActive (i : Inclusion) : Bool := i != .excluded

def text : Inclusion → String
  | always => "always"
  | gateOn => "gate-on"
  | softFallback => "soft-fallback"
  | excluded => "excluded"

def ofGate (kind : GateKind) (fallback : SoftFallback) : (isOn : Bool) → Inclusion
  | true => .gateOn
  | false =>
    match kind, fallback with
    | .soft, .keep => .softFallback
    | .soft, .drop => .excluded
    | .hard, _ => .excluded

end Inclusion

def Entry.inclusion (e : Entry) (gates : GateSet) (fallback : SoftFallback) : Except RegistryError Inclusion :=
  match e.mode with
  | .always => .ok .always
  | .gated gate =>
    match gates.get? gate.name.text with
    | none => .error (.unknownGate gate.name.text e.name.text)
    | some isOn => .ok (.ofGate gate.kind fallback isOn)

def inclusions (gates : GateSet) (fallback : SoftFallback) : List Entry → Except RegistryError (List Inclusion)
  | [] => .ok []
  | e :: rest =>
    match e.inclusion gates fallback with
    | .error error => .error error
    | .ok i => (inclusions gates fallback rest).map (i :: ·)

theorem inclusions_cons_eq_ok_iff {gates : GateSet} {fallback : SoftFallback} {e : Entry} {rest : List Entry}
    {is : List Inclusion} : inclusions gates fallback (e :: rest) = .ok is ↔
      ∃ i js, e.inclusion gates fallback = .ok i ∧ inclusions gates fallback rest = .ok js ∧ i :: js = is := by
  rw [inclusions]
  cases e.inclusion gates fallback <;> simp [map_eq_ok_iff]

theorem length_of_inclusions_eq_ok {gates : GateSet} {fallback : SoftFallback} {entries : List Entry}
    {is : List Inclusion} (h : inclusions gates fallback entries = .ok is) : is.length = entries.length := by
  induction entries generalizing is with
  | nil =>
    cases h
    rfl
  | cons e rest ih =>
    obtain ⟨i, js, -, hrest, rfl⟩ := inclusions_cons_eq_ok_iff.mp h
    rw [List.length_cons, List.length_cons, ih hrest]

theorem getElem?_inclusions {gates : GateSet} {fallback : SoftFallback} {entries : List Entry}
    {is : List Inclusion} (h : inclusions gates fallback entries = .ok is) {k : Nat} {e : Entry}
    (he : entries[k]? = some e) : ∃ i, is[k]? = some i ∧ e.inclusion gates fallback = .ok i := by
  induction entries generalizing is k with
  | nil => simp at he
  | cons a rest ih =>
    obtain ⟨i, js, hi, hrest, rfl⟩ := inclusions_cons_eq_ok_iff.mp h
    cases k with
    | zero =>
      simp only [List.getElem?_cons_zero, Option.some.injEq] at he
      exact ⟨i, rfl, he ▸ hi⟩
    | succ k => exact ih hrest he

theorem Entry.inclusion_congr {e : Entry} {gates others : GateSet} {fallback : SoftFallback}
    (h : ∀ g, e.gateName? = some g → gates.get? g = others.get? g) :
    e.inclusion gates fallback = e.inclusion others fallback := by
  obtain ⟨name, mode⟩ := e
  cases mode with
  | always => rfl
  | gated gate => simp only [Entry.inclusion, h gate.name.text rfl]

theorem inclusions_congr {gates others : GateSet} {fallback : SoftFallback} {entries : List Entry}
    (h : ∀ e ∈ entries, ∀ g, e.gateName? = some g → gates.get? g = others.get? g) :
    inclusions gates fallback entries = inclusions others fallback entries := by
  induction entries with
  | nil => rfl
  | cons e rest ih =>
    obtain ⟨he, hrest⟩ := List.forall_mem_cons.mp h
    rw [inclusions, inclusions, Entry.inclusion_congr he, ih hrest]

theorem Entry.exists_inclusion_iff {e : Entry} {gates : GateSet} {fallback : SoftFallback} :
    (∃ i, e.inclusion gates fallback = .ok i) ↔ e.Resolved gates := by
  obtain ⟨name, mode⟩ := e
  cases mode with
  | always => simp [Entry.inclusion, Entry.Resolved, Entry.gateName?, Entry.gate?, Mode.gate?]
  | gated gate =>
    cases hgate : gates.get? gate.name.text <;>
      simp [Entry.inclusion, Entry.Resolved, Entry.gateName?, Entry.gate?, Mode.gate?, GateSet.contains, hgate]

theorem exists_inclusions_iff {gates : GateSet} {fallback : SoftFallback} {entries : List Entry} :
    (∃ is, inclusions gates fallback entries = .ok is) ↔ ∀ e ∈ entries, e.Resolved gates := by
  induction entries with
  | nil => simp [inclusions]
  | cons e rest ih =>
    rw [List.forall_mem_cons, ← Entry.exists_inclusion_iff, ← ih]
    cases he : e.inclusion gates fallback with
    | error error => simp [inclusions, he]
    | ok i => cases hrest : inclusions gates fallback rest <;> simp [inclusions, he, hrest, Except.map]

structure Opcode where
  value : UInt32
  deriving DecidableEq, Repr

namespace Opcode

def ofIndex (index : Nat) : Opcode := ⟨.ofNat index⟩

def index (o : Opcode) : Nat := o.value.toNat

def text (o : Opcode) : String := toString o.index

@[simp] theorem index_ofIndex {index : Nat} (h : index < UInt32.size) : (ofIndex index).index = index := by
  simp only [ofIndex, Opcode.index, UInt32.toNat_ofNat', Nat.mod_eq_of_lt h]

@[simp] theorem ofIndex_index (o : Opcode) : ofIndex o.index = o := by
  simp [ofIndex, Opcode.index]

end Opcode

structure ActiveEntry where
  opcode : Opcode
  position : Nat
  inclusion : Inclusion
  entry : Entry
  deriving DecidableEq

def ActiveEntry.name (a : ActiveEntry) : String := a.entry.name.text

def activeFrom (position opcode : Nat) : List (Entry × Inclusion) → List ActiveEntry
  | [] => []
  | (e, i) :: rest =>
    if i.isActive then ⟨.ofIndex opcode, position, i, e⟩ :: activeFrom (position + 1) (opcode + 1) rest
    else activeFrom (position + 1) opcode rest

theorem length_activeFrom (position opcode : Nat) (decided : List (Entry × Inclusion)) :
    (activeFrom position opcode decided).length = decided.countP (·.2.isActive) := by
  induction decided generalizing position opcode with
  | nil => rfl
  | cons d rest ih =>
    obtain ⟨e, i⟩ := d
    cases hi : i.isActive <;> simp [activeFrom, hi, ih]

def activeBefore (decided : List (Entry × Inclusion)) (position : Nat) : Nat :=
  (decided.take position).countP (·.2.isActive)

theorem activeBefore_cons (d : Entry × Inclusion) (rest : List (Entry × Inclusion)) (position : Nat) :
    activeBefore (d :: rest) (position + 1) = activeBefore rest position + if d.2.isActive then 1 else 0 := by
  rw [activeBefore, List.take_succ_cons, List.countP_cons, activeBefore]

theorem getElem?_activeFrom {position opcode : Nat} {decided : List (Entry × Inclusion)} {n : Nat}
    {a : ActiveEntry} (h : (activeFrom position opcode decided)[n]? = some a) :
    ∃ k, decided[k]? = some (a.entry, a.inclusion) ∧ a.inclusion.isActive = true ∧
      a.position = position + k ∧ a.opcode = .ofIndex (opcode + n) ∧ n = activeBefore decided k := by
  induction decided generalizing position opcode n with
  | nil => simp [activeFrom] at h
  | cons d rest ih =>
    obtain ⟨e, i⟩ := d
    cases hi : i.isActive with
    | false =>
      simp only [activeFrom, hi, Bool.false_eq_true, if_false] at h
      obtain ⟨k, hk, ha, hp, ho, hn⟩ := ih h
      exact ⟨k + 1, by simpa using hk, ha, by omega, ho, by simp [activeBefore, hi, hn]⟩
    | true =>
      simp only [activeFrom, hi, if_true] at h
      cases n with
      | zero =>
        simp only [List.getElem?_cons_zero, Option.some.injEq] at h
        subst h
        exact ⟨0, rfl, hi, rfl, rfl, rfl⟩
      | succ n =>
        rw [List.getElem?_cons_succ] at h
        obtain ⟨k, hk, ha, hp, ho, hn⟩ := ih h
        refine ⟨k + 1, by simpa using hk, ha, by omega, ?_, by simp [activeBefore, hi, hn]⟩
        rw [ho, Nat.add_right_comm, Nat.add_assoc]

theorem activeFrom_activeBefore {position opcode : Nat} {decided : List (Entry × Inclusion)} {k : Nat} {e : Entry}
    {i : Inclusion} (h : decided[k]? = some (e, i)) (hi : i.isActive = true) :
    (activeFrom position opcode decided)[activeBefore decided k]? =
      some ⟨.ofIndex (opcode + activeBefore decided k), position + k, i, e⟩ := by
  induction decided generalizing position opcode k with
  | nil => simp at h
  | cons d rest ih =>
    obtain ⟨e', i'⟩ := d
    cases k with
    | zero =>
      simp only [List.getElem?_cons_zero, Option.some.injEq, Prod.mk.injEq] at h
      obtain ⟨rfl, rfl⟩ := h
      simp [activeFrom, activeBefore, hi]
    | succ k =>
      have hrest : rest[k]? = some (e, i) := by simpa using h
      cases hi' : i'.isActive with
      | true =>
        rw [activeBefore_cons, activeFrom, if_pos hi', if_pos hi', List.getElem?_cons_succ, ih hrest]
        simp [Nat.add_assoc, Nat.add_comm 1]
      | false =>
        simp only [activeBefore_cons, activeFrom, hi', Bool.false_eq_true, if_false, Nat.add_zero, ih hrest]
        simp [Nat.add_assoc, Nat.add_comm 1]

theorem le_position_of_mem {position opcode : Nat} {decided : List (Entry × Inclusion)} {a : ActiveEntry}
    (h : a ∈ activeFrom position opcode decided) : position ≤ a.position := by
  obtain ⟨n, hn⟩ := List.mem_iff_getElem?.mp h
  obtain ⟨k, -, -, hposition, -⟩ := getElem?_activeFrom hn
  exact hposition ▸ Nat.le_add_right position k

theorem pairwise_activeFrom (position opcode : Nat) (decided : List (Entry × Inclusion)) :
    (activeFrom position opcode decided).Pairwise fun a b => a.position < b.position := by
  induction decided generalizing position opcode with
  | nil => exact .nil
  | cons d rest ih =>
    obtain ⟨e, i⟩ := d
    unfold activeFrom
    split
    · exact .cons (fun a ha => le_position_of_mem ha) (ih (position + 1) (opcode + 1))
    · exact ih (position + 1) opcode

theorem map_activeFrom (position opcode : Nat) (decided : List (Entry × Inclusion)) :
    (activeFrom position opcode decided).map (fun a => (a.entry, a.inclusion)) =
      decided.filter (·.2.isActive) := by
  induction decided generalizing position opcode with
  | nil => rfl
  | cons d rest ih =>
    obtain ⟨e, i⟩ := d
    cases hi : i.isActive <;> simp [activeFrom, hi, ih]

theorem map_entry_activeFrom (position opcode : Nat) (decided : List (Entry × Inclusion)) :
    (activeFrom position opcode decided).map (·.entry) = (decided.filter (·.2.isActive)).map Prod.fst := by
  rw [← map_activeFrom position opcode, List.map_map]
  rfl

theorem sublist_activeFrom (position opcode : Nat) (decided : List (Entry × Inclusion)) :
    ((activeFrom position opcode decided).map (·.entry)).Sublist (decided.map Prod.fst) := by
  rw [map_entry_activeFrom]
  exact List.filter_sublist.map Prod.fst

structure Selection where
  registry : Registry
  decisions : List Inclusion
  length_decisions : decisions.length = registry.entries.length

def Registry.select (r : Registry) (gates : GateSet) (fallback : SoftFallback) : Except RegistryError Selection :=
  match h : inclusions gates fallback r.entries with
  | .error error => .error error
  | .ok is => .ok ⟨r, is, length_of_inclusions_eq_ok h⟩

theorem select_eq_ok_iff {r : Registry} {gates : GateSet} {fallback : SoftFallback} {s : Selection} :
    r.select gates fallback = .ok s ↔ s.registry = r ∧ inclusions gates fallback r.entries = .ok s.decisions := by
  unfold Registry.select
  constructor
  · intro h
    split at h
    · simp at h
    · rename_i is hi
      simp only [Except.ok.injEq] at h
      subst h
      exact ⟨rfl, hi⟩
  · rintro ⟨rfl, hi⟩
    obtain ⟨r, ds, hd⟩ := s
    split
    · rename_i error he
      rw [he] at hi
      simp at hi
    · rename_i is his
      rw [his, Except.ok.injEq] at hi
      simp only [Except.ok.injEq, Selection.mk.injEq, true_and]
      exact hi

theorem inclusions_of_select_error {r : Registry} {gates : GateSet} {fallback : SoftFallback} {error : RegistryError}
    (h : r.select gates fallback = .error error) : inclusions gates fallback r.entries = .error error := by
  unfold Registry.select at h
  split at h
  · rename_i found hfound
    cases h
    exact hfound
  · cases h

theorem exists_select_iff {r : Registry} {gates : GateSet} {fallback : SoftFallback} :
    (∃ s, r.select gates fallback = .ok s) ↔ ∀ e ∈ r.entries, e.Resolved gates := by
  rw [← @exists_inclusions_iff gates fallback]
  constructor
  · rintro ⟨s, hs⟩
    exact ⟨s.decisions, (select_eq_ok_iff.mp hs).2⟩
  · rintro ⟨is, his⟩
    exact ⟨⟨r, is, length_of_inclusions_eq_ok his⟩, select_eq_ok_iff.mpr ⟨rfl, his⟩⟩

theorem select_congr {r : Registry} {gates others : GateSet} {fallback : SoftFallback}
    (h : ∀ e ∈ r.entries, ∀ g, e.gateName? = some g → gates.get? g = others.get? g) :
    r.select gates fallback = r.select others fallback := by
  have hsame : inclusions gates fallback r.entries = inclusions others fallback r.entries := inclusions_congr h
  unfold Registry.select
  split <;> split <;> simp_all

namespace Selection

def decided (s : Selection) : List (Entry × Inclusion) := s.registry.entries.zip s.decisions

def active (s : Selection) : List ActiveEntry := activeFrom 0 0 s.decided

def size (s : Selection) : Nat := s.active.length

def get? (s : Selection) (o : Opcode) : Option ActiveEntry := s.active[o.index]?

def decision? (s : Selection) (position : Nat) : Option Inclusion := s.decisions[position]?

def positions (s : Selection) : Array Nat := (s.active.map (·.position)).toArray

def opcodeOf? (s : Selection) (name : String) : Option Opcode :=
  match s.registry.position? name with
  | none => none
  | some position => (bisect? s.positions position).map .ofIndex

theorem getElem?_decided {s : Selection} {k : Nat} {d : Entry × Inclusion} :
    s.decided[k]? = some d ↔ s.registry.entries[k]? = some d.1 ∧ s.decisions[k]? = some d.2 :=
  List.getElem?_zip_eq_some

theorem map_fst_decided (s : Selection) : s.decided.map Prod.fst = s.registry.entries :=
  List.map_fst_zip (Nat.le_of_eq s.length_decisions.symm)

theorem map_snd_decided (s : Selection) : s.decided.map Prod.snd = s.decisions :=
  List.map_snd_zip (Nat.le_of_eq s.length_decisions)

theorem exists_decided {s : Selection} {position : Nat} {e : Entry} (h : s.registry.entries[position]? = some e) :
    ∃ i, s.decided[position]? = some (e, i) := by
  rw [← map_fst_decided, List.getElem?_map, Option.map_eq_some_iff] at h
  obtain ⟨d, hd, rfl⟩ := h
  exact ⟨d.2, hd⟩

theorem length_decided (s : Selection) : s.decided.length = s.registry.size := by
  simp [decided, s.length_decisions, Registry.size]

theorem size_eq (s : Selection) : s.size = s.decisions.countP Inclusion.isActive := by
  rw [← map_snd_decided, List.countP_map]
  exact length_activeFrom 0 0 s.decided

theorem activeBefore_decided (s : Selection) (position : Nat) :
    activeBefore s.decided position = (s.decisions.take position).countP Inclusion.isActive := by
  rw [← map_snd_decided, ← List.map_take, List.countP_map]
  rfl

theorem getElem?_active {s : Selection} {k : Nat} {a : ActiveEntry} (h : s.active[k]? = some a) :
    s.decided[a.position]? = some (a.entry, a.inclusion) ∧ a.inclusion.isActive = true ∧ a.opcode = .ofIndex k ∧
      activeBefore s.decided a.position = k := by
  obtain ⟨position, hdecided, hactive, hposition, hopcode, hbefore⟩ := getElem?_activeFrom h
  rw [Nat.zero_add] at hposition hopcode
  subst hposition
  exact ⟨hdecided, hactive, hopcode, hbefore.symm⟩

theorem entry_of_active {s : Selection} {k : Nat} {a : ActiveEntry} (h : s.active[k]? = some a) :
    s.registry.entries[a.position]? = some a.entry :=
  (getElem?_decided.mp (getElem?_active h).1).1

theorem active_of_decided {s : Selection} {position : Nat} {e : Entry} {i : Inclusion}
    (h : s.decided[position]? = some (e, i)) (hi : i.isActive = true) :
    s.active[activeBefore s.decided position]? =
      some ⟨.ofIndex (activeBefore s.decided position), position, i, e⟩ := by
  have hactive := @activeFrom_activeBefore 0 0 _ _ _ _ h hi
  rwa [Nat.zero_add, Nat.zero_add] at hactive

theorem increasing_positions (s : Selection) : Increasing s.positions :=
  List.pairwise_map.mpr (pairwise_activeFrom 0 0 s.decided)

theorem getElem?_positions {s : Selection} {k position : Nat} :
    s.positions[k]? = some position ↔ ∃ a, s.active[k]? = some a ∧ a.position = position := by
  rw [positions, List.getElem?_toArray, List.getElem?_map, Option.map_eq_some_iff]

theorem size_le (s : Selection) : s.size ≤ s.registry.size := by
  rw [size_eq, Registry.size, ← s.length_decisions]
  exact List.countP_le_length

theorem lt_of_active {s : Selection} {k : Nat} {a : ActiveEntry} (hsize : s.registry.size ≤ UInt32.size)
    (h : s.active[k]? = some a) : k < UInt32.size := by
  have hlt : k < s.size := (List.getElem?_eq_some_iff.mp h).1
  exact Nat.lt_of_lt_of_le hlt (Nat.le_trans s.size_le hsize)

theorem position?_of_decided {s : Selection} {position : Nat} {e : Entry} {i : Inclusion}
    (h : s.decided[position]? = some (e, i)) : s.registry.position? e.name.text = some position :=
  Registry.position?_eq_some_iff.mpr ⟨e, (getElem?_decided.mp h).1, rfl⟩

theorem opcodeOf?_of_decided {s : Selection} {position : Nat} {e : Entry} {i : Inclusion}
    (h : s.decided[position]? = some (e, i)) : s.opcodeOf? e.name.text =
      if i.isActive then some (.ofIndex (activeBefore s.decided position)) else none := by
  simp only [opcodeOf?, position?_of_decided h]
  split
  · rename_i hi
    have hbisect : bisect? s.positions position = some (activeBefore s.decided position) :=
      (bisect?_eq_some_iff s.increasing_positions).mpr (getElem?_positions.mpr ⟨_, active_of_decided h hi, rfl⟩)
    rw [hbisect, Option.map_some]
  · rename_i hi
    have hbisect : bisect? s.positions position = none := by
      rw [Option.eq_none_iff_forall_ne_some]
      intro k hk
      obtain ⟨a, ha, rfl⟩ := getElem?_positions.mp ((bisect?_eq_some_iff s.increasing_positions).mp hk)
      obtain ⟨hdecided, hactive, -⟩ := getElem?_active ha
      rw [h, Option.some.injEq, Prod.mk.injEq] at hdecided
      exact hi (hdecided.2 ▸ hactive)
    rw [hbisect, Option.map_none]

theorem exists_active_of_opcodeOf? {s : Selection} {name : String} {o : Opcode} (h : s.opcodeOf? name = some o) :
    ∃ k a, s.active[k]? = some a ∧ o = .ofIndex k ∧ s.registry.position? name = some a.position := by
  unfold opcodeOf? at h
  split at h
  · cases h
  · rename_i position hposition
    obtain ⟨k, hk, rfl⟩ := Option.map_eq_some_iff.mp h
    obtain ⟨a, ha, rfl⟩ := getElem?_positions.mp ((bisect?_eq_some_iff s.increasing_positions).mp hk)
    exact ⟨k, a, ha, rfl, hposition⟩

theorem opcodeOf?_eq_some_iff {s : Selection} (hsize : s.registry.size ≤ UInt32.size) {name : String} {o : Opcode} :
    s.opcodeOf? name = some o ↔ ∃ a, s.get? o = some a ∧ a.name = name := by
  constructor
  · intro h
    obtain ⟨k, a, ha, rfl, hposition⟩ := exists_active_of_opcodeOf? h
    obtain ⟨e, he, hname⟩ := Registry.position?_eq_some_iff.mp hposition
    have hsame : a.entry = e := Option.some.inj ((entry_of_active ha).symm.trans he)
    refine ⟨a, ?_, ?_⟩
    · rw [get?, Opcode.index_ofIndex (lt_of_active hsize ha)]
      exact ha
    · rw [ActiveEntry.name, hsame, hname]
  · rintro ⟨a, ha, rfl⟩
    have hposition : s.registry.position? a.name = some a.position :=
      Registry.position?_eq_some_iff.mpr ⟨a.entry, entry_of_active ha, rfl⟩
    have hbisect : bisect? s.positions a.position = some o.index :=
      (bisect?_eq_some_iff s.increasing_positions).mpr (getElem?_positions.mpr ⟨a, ha, rfl⟩)
    rw [opcodeOf?, hposition]
    simp [hbisect]

end Selection

end KindTable
