import ObjectModel.Proofs.Chains.Outcome
import Mathlib.Data.List.Nodup

/-! # Subclassing is a forest order

A walk that comes to its end shows the whole chain of its class, and with it the chains of all supers:
each of them is what is left of the chain from that super on. The classes with such walks are therefore
ordered as in a forest, where the supers of each class are one path. Nothing is asked of the registry:
chains that go round, run over the limit or leave the registry belong to other classes.
-/

namespace ObjectModel.Registry

variable {registry : Registry} {start id : ClassId} {limit place : Nat} {chain : List ClassId}

/-! ## Chains from a later class on -/

/-- From the class at a place on, a chain is the chain of that class. -/
theorem superAt?_add (here : registry.superAt? start place = some id) (further : Nat) :
    registry.superAt? start (place + further) = registry.superAt? id further := by
  induction further with
  | zero => exact here
  | succ further ih => exact congrArg (·.bind registry.super?) ih

/-- A chain that has ended does not go on. -/
theorem superAt?_eq_none_of_le (ended : registry.superAt? start place = none) {later : Nat}
    (behind : place ≤ later) : registry.superAt? start later = none := by
  induction later, behind using Nat.le_induction with
  | base => exact ended
  | succ later _ ih => rw [superAt?, ih, Option.bind_none]

/-! ## Chains that end -/

/-- A chain that ends shows its classes and nothing behind them. -/
theorem Ends.superAt?_eq (ends : registry.Ends start limit chain) (place : Nat) :
    registry.superAt? start place = chain[place]? := by
  obtain ⟨end', last, clear, here, isLast, _, listed⟩ := ends
  rcases Nat.lt_or_ge end' place with behind | within
  · obtain ⟨_, here', registered⟩ := clear.registered end' (Nat.lt_succ_self end')
    cases here.symm.trans here'
    have ended : registry.superAt? start (end' + 1) = none := by
      rw [superOf_of_registered registered, Except.ok.injEq] at isLast
      rw [superAt?_succ here, isLast]
    have length : chain.length = end' + 1 := by
      simpa using congrArg List.length listed
    rw [superAt?_eq_none_of_le ended behind, List.getElem?_eq_none (by omega)]
  · have shown := congrArg (·[place]?) listed
    have inRange : place < end' + 1 := by omega
    simp only [List.getElem?_map, List.getElem?_range inRange, Option.map_some] at shown
    cases there : chain[place]? with
    | none => simp [there] at shown
    | some id => simpa [there] using shown.symm

/-- A walk comes to its end with these classes exactly if they are all different and registered, not
more than the limit allows, and all that the chain shows. -/
theorem ancestors_eq_ok_iff :
    registry.ancestors start limit = .ok chain ↔
      0 < chain.length ∧ chain.length ≤ limit ∧ chain.Nodup ∧
        (∀ id ∈ chain, registry.IsRegistered id) ∧
        ∀ place, registry.superAt? start place = chain[place]? := by
  rw [ancestors_eq_iff]
  constructor
  · intro ends
    have shows := ends.superAt?_eq
    obtain ⟨end', last, clear, here, isLast, within, listed⟩ := ends
    have length : chain.length = end' + 1 := by
      simpa using congrArg List.length listed
    refine ⟨by omega, by omega, ?_, fun id member => ?_, shows⟩
    · refine List.nodup_iff_getElem?_ne_getElem?.mpr fun first second before bound => ?_
      rw [← shows, ← shows]
      exact clear.distinct before (by omega)
    · obtain ⟨place, there⟩ := List.mem_iff_getElem?.mp member
      have bound := (List.getElem?_eq_some_iff.mp there).1
      obtain ⟨_, here', registered⟩ := clear.registered place (by omega)
      rw [shows, there] at here'
      cases here'
      exact registered
  · rintro ⟨nonempty, within, distinct, registered, shows⟩
    obtain ⟨end', length⟩ : ∃ end', chain.length = end' + 1 := ⟨chain.length - 1, by omega⟩
    have inChain {place : Nat} (before : place < end' + 1) : ∃ id,
        registry.superAt? start place = some id ∧ registry.IsRegistered id := by
      have bound : place < chain.length := by omega
      exact ⟨chain[place], by rw [shows, List.getElem?_eq_getElem bound],
        registered _ (List.getElem_mem bound)⟩
    obtain ⟨last, here, registeredLast⟩ := inChain (Nat.lt_succ_self end')
    have ended : registry.superAt? start (end' + 1) = none := by
      rw [shows, List.getElem?_eq_none (by omega)]
    refine ⟨end', last, ⟨fun place before => inChain before, fun before bound => ?_⟩, here, ?_,
      by omega, ?_⟩
    · rw [shows, shows]
      exact List.nodup_iff_getElem?_ne_getElem?.mp distinct _ _ before (by omega)
    · rw [superOf_of_registered registeredLast, ← superAt?_succ here, ended]
    · refine List.ext_getElem? fun place => ?_
      rcases Nat.lt_or_ge place (end' + 1) with before | past
      · have bound : place < chain.length := by omega
        simp [List.getElem?_range before, shows, bound]
      · rw [List.getElem?_eq_none (by simp; omega), List.getElem?_eq_none (by simp; omega)]

/-- The walk from a super goes along what is left of the chain. -/
theorem ancestors_suffix {nearer further : List ClassId}
    (walk : registry.ancestors start limit = .ok (nearer ++ id :: further)) :
    registry.ancestors id limit = .ok (id :: further) := by
  obtain ⟨_, within, distinct, registered, shows⟩ := ancestors_eq_ok_iff.mp walk
  have here : registry.superAt? start nearer.length = some id := by simp [shows]
  refine ancestors_eq_ok_iff.mpr ⟨by simp, ?_, (List.nodup_append.mp distinct).2.1, ?_, ?_⟩
  · rw [List.length_append] at within
    omega
  · intro other member
    exact registered other (List.mem_append_right nearer member)
  · intro place
    rw [← superAt?_add here, shows, List.getElem?_append_right (by omega), Nat.add_sub_cancel_left]

/-- A walk starts at its class. -/
theorem exists_eq_cons_of_ancestors (walk : registry.ancestors start limit = .ok chain) :
    ∃ further, chain = start :: further := by
  have first := (ancestors_eq_ok_iff.mp walk).2.2.2.2 0
  cases chain with
  | nil => cases first
  | cons id further => cases first; exact ⟨further, rfl⟩

/-! ## Subclasses -/

/-- A class is a subclass of the classes on its chain, and where the walk fails so does the question. -/
theorem isSubclassOf_eq (registry : Registry) (sub sup : ClassId) (limit : Nat) :
    registry.isSubclassOf sub sup limit =
      (registry.ancestors sub limit).map fun chain => decide (sup ∈ chain) := by
  rw [isSubclassOf]
  cases registry.ancestors sub limit with
  | error cause => rfl
  | ok chain => exact congrArg Except.ok (List.contains_eq_mem sup chain)

theorem isSubclassOf_of_ancestors {sub : ClassId} (walk : registry.ancestors sub limit = .ok chain)
    (sup : ClassId) : registry.isSubclassOf sub sup limit = .ok (decide (sup ∈ chain)) := by
  rw [isSubclassOf_eq, walk]
  rfl

/-- One class is a subclass of another exactly if the other stands on its chain. -/
theorem isSubclassOf_eq_true_iff {sub sup : ClassId} :
    registry.isSubclassOf sub sup limit = .ok true ↔
      ∃ nearer further, registry.ancestors sub limit = .ok (nearer ++ sup :: further) := by
  constructor
  · intro under
    rw [isSubclassOf_eq] at under
    cases walk : registry.ancestors sub limit with
    | error cause => simp [walk, Except.map] at under
    | ok chain =>
      have member : sup ∈ chain := by simpa [walk, Except.map] using under
      obtain ⟨nearer, further, rfl⟩ := List.append_of_mem member
      exact ⟨nearer, further, rfl⟩
  · rintro ⟨nearer, further, walk⟩
    rw [isSubclassOf_of_ancestors walk]
    simp

/-! ## The order -/

/-- What walks under one limit make of the classes of a registry. -/
structure ForestOrder (registry : Registry) (limit : Nat) : Prop where
  /-- The chain of a super is what is left of the chain from the super on. -/
  suffix : ∀ {start chain}, registry.ancestors start limit = .ok chain → ∀ sup ∈ chain,
    registry.ancestors sup limit = .ok (chain.drop (chain.idxOf sup))
  refl : ∀ {id chain}, registry.ancestors id limit = .ok chain →
    registry.isSubclassOf id id limit = .ok true
  trans : ∀ {sub middle sup}, registry.isSubclassOf sub middle limit = .ok true →
    registry.isSubclassOf middle sup limit = .ok true → registry.isSubclassOf sub sup limit = .ok true
  antisymm : ∀ {id other}, registry.isSubclassOf id other limit = .ok true →
    registry.isSubclassOf other id limit = .ok true → id = other
  /-- The supers of a class are one path. -/
  comparable : ∀ {sub sup other}, registry.isSubclassOf sub sup limit = .ok true →
    registry.isSubclassOf sub other limit = .ok true →
      registry.isSubclassOf sup other limit = .ok true ∨
        registry.isSubclassOf other sup limit = .ok true
  /-- A class with a chain can tell of every identifier whether it stands above. -/
  decided : ∀ {id chain}, registry.ancestors id limit = .ok chain → ∀ other,
    registry.isSubclassOf id other limit = .ok (decide (other ∈ chain))
  unregistered : ∀ {id chain}, registry.ancestors id limit = .ok chain → ∀ other,
    ¬ registry.IsRegistered other → registry.isSubclassOf id other limit = .ok false

section Order

variable {sub middle sup other : ClassId}

theorem ancestors_drop_idxOf (walk : registry.ancestors start limit = .ok chain)
    (member : sup ∈ chain) : registry.ancestors sup limit = .ok (chain.drop (chain.idxOf sup)) := by
  obtain ⟨nearer, further, rfl, new⟩ := List.eq_append_cons_of_mem member
  have place : (nearer ++ sup :: further).idxOf sup = nearer.length := by
    rw [List.idxOf_append_of_notMem new, List.idxOf_cons_self, Nat.add_zero]
  rw [place, List.drop_left]
  exact ancestors_suffix walk

theorem isSubclassOf_trans (first : registry.isSubclassOf sub middle limit = .ok true)
    (second : registry.isSubclassOf middle sup limit = .ok true) :
    registry.isSubclassOf sub sup limit = .ok true := by
  obtain ⟨nearer, further, walk⟩ := isSubclassOf_eq_true_iff.mp first
  have above : sup ∈ middle :: further := by
    simpa [isSubclassOf_of_ancestors (ancestors_suffix walk)] using second
  rw [isSubclassOf_of_ancestors walk, decide_eq_true (List.mem_append_right nearer above)]

/-- A super of a class that is also under it would stand on the chain of the class twice. -/
theorem isSubclassOf_antisymm (first : registry.isSubclassOf id other limit = .ok true)
    (second : registry.isSubclassOf other id limit = .ok true) : id = other := by
  obtain ⟨nearer, further, walk⟩ := isSubclassOf_eq_true_iff.mp first
  have above : id ∈ other :: further := by
    simpa [isSubclassOf_of_ancestors (ancestors_suffix walk)] using second
  obtain ⟨rest, starts⟩ := exists_eq_cons_of_ancestors walk
  cases nearer with
  | nil => exact (List.cons.inj starts).1.symm
  | cons nearest nearer =>
    obtain rfl : nearest = id := (List.cons.inj starts).1
    have distinct := (ancestors_eq_ok_iff.mp walk).2.2.1
    rw [List.cons_append, List.nodup_cons] at distinct
    exact absurd (List.mem_append_right nearer above) distinct.1

/-- Of two classes on one chain the nearer one is under the other. -/
theorem isSubclassOf_comparable (first : registry.isSubclassOf sub sup limit = .ok true)
    (second : registry.isSubclassOf sub other limit = .ok true) :
    registry.isSubclassOf sup other limit = .ok true ∨
      registry.isSubclassOf other sup limit = .ok true := by
  obtain ⟨nearer, further, walk⟩ := isSubclassOf_eq_true_iff.mp first
  have member : other ∈ nearer ++ sup :: further := by
    simpa [isSubclassOf_of_ancestors walk] using second
  rcases List.mem_append.mp member with isNearer | behind
  · obtain ⟨nearest, between, rfl⟩ := List.append_of_mem isNearer
    rw [List.append_assoc, List.cons_append] at walk
    right
    rw [isSubclassOf_of_ancestors (ancestors_suffix walk)]
    simp
  · left
    rw [isSubclassOf_of_ancestors (ancestors_suffix walk), decide_eq_true behind]

end Order

/-- For every registry, whatever its super links, and every limit, subclassing orders the classes whose
walks come to their end as a forest. -/
theorem subclass_forest (registry : Registry) (limit : Nat) : registry.ForestOrder limit where
  suffix walk sup member := ancestors_drop_idxOf walk member
  refl walk := by
    obtain ⟨further, rfl⟩ := exists_eq_cons_of_ancestors walk
    rw [isSubclassOf_of_ancestors walk, decide_eq_true List.mem_cons_self]
  trans := isSubclassOf_trans
  antisymm := isSubclassOf_antisymm
  comparable := isSubclassOf_comparable
  decided walk other := isSubclassOf_of_ancestors walk other
  unregistered walk other missing := by
    have notAbove := fun member => missing ((ancestors_eq_ok_iff.mp walk).2.2.2.1 other member)
    rw [isSubclassOf_of_ancestors walk, decide_eq_false notAbove]

/-- Two classes under one root are not comparable, and a class on a round is not even under itself. -/
example :
    let registry : Registry :=
      ⟨#[⟨"A", .user, none, none, ⟨0⟩, ⟨1⟩⟩, ⟨"B", .user, none, some ⟨0⟩, ⟨2⟩, ⟨3⟩⟩,
        ⟨"C", .user, none, some ⟨0⟩, ⟨4⟩, ⟨5⟩⟩, ⟨"D", .user, none, some ⟨3⟩, ⟨6⟩, ⟨7⟩⟩], {}⟩
    registry.isSubclassOf ⟨1⟩ ⟨0⟩ 2 = .ok true ∧ registry.isSubclassOf ⟨1⟩ ⟨2⟩ 2 = .ok false ∧
      registry.isSubclassOf ⟨1⟩ ⟨9⟩ 2 = .ok false ∧
      registry.isSubclassOf ⟨3⟩ ⟨3⟩ 2 = .error (.cyclicHierarchy ⟨3⟩) :=
  ⟨rfl, rfl, rfl, rfl⟩

end ObjectModel.Registry
