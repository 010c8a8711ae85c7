import Mathlib
import EntitySql.Schema.Registry
import EntitySql.Schema.Builder

/-!
# The inheritance hierarchy of a registry

A registry keeps its single-table hierarchy twice: a table from each child's name to its parent's
name, which `isSubtypeOf` climbs, and the list of children each parent records, which
`descendants` walks down. Registration updates the two by different rules: the table has one
entry per child name, the last registration's, while a parent's list only grows, until the parent
itself is registered again.

Main statements:

* `registrations_keep_hierarchy`: after any registrations of entities as the builder makes them,
  no path down the recorded children comes back to a name it passed, so the walk of `descendants`
  ends above its bound. When no name was registered twice, every chain up the parent table also
  ends within the table's length, `isSubtypeOf` answers what the chain says, and `descendants`
  lists every proper subtype exactly once.
* `ancestorIn_own_parent`: registering an entity again as its own child makes its chain a loop,
  so a subtype test from it that looks for another name never returns in the source.
* `descendants_twice_after_reregistration`: a child registered again under an older ancestor is
  listed twice.
-/

namespace EntitySql

namespace Registry

/-! ## Lookups after a registration -/

theorem byName?_name {r : Registry} {n : String} {e : Entity} (h : r.byName? n = some e) :
    e.name = n := by
  simpa using List.find?_some h

theorem mem_of_byName? {r : Registry} {n : String} {e : Entity} (h : r.byName? n = some e) :
    e ∈ r.entities :=
  List.mem_of_find?_eq_some h

theorem byName?_put (r : Registry) (e : Entity) (n : String) :
    (r.put e).byName? n = if e.name = n then some e else r.byName? n := by
  unfold put byName?
  split
  · rename_i hany
    rw [List.find?_map]
    split
    · rename_i hn
      subst hn
      have hp : ((fun x : Entity => decide (x.name = e.name)) ∘
          fun x => if x.name = e.name then e else x) = fun x => decide (x.name = e.name) := by
        funext x; by_cases h : x.name = e.name <;> simp [h]
      rw [hp]
      cases hf : r.entities.find? (fun x => decide (x.name = e.name)) with
      | none =>
        obtain ⟨x, hx, hxn⟩ := List.any_eq_true.mp hany
        have := List.find?_eq_none.mp hf x hx
        simp_all
      | some y =>
        have hy : y.name = e.name := by simpa using List.find?_some hf
        simp [hy]
    · rename_i hn
      have hp : ((fun x : Entity => decide (x.name = n)) ∘
          fun x => if x.name = e.name then e else x) = fun x => decide (x.name = n) := by
        funext x; by_cases h : x.name = e.name <;> simp [h, hn]
      rw [hp]
      cases hf : r.entities.find? (fun x => decide (x.name = n)) with
      | none => rfl
      | some y =>
        have hy : y.name = n := by simpa using List.find?_some hf
        have : y.name ≠ e.name := fun h => hn (h ▸ hy)
        simp [this]
  · rename_i hany
    rw [List.find?_append]
    split
    · rename_i hn
      subst hn
      have : r.entities.find? (fun x => decide (x.name = e.name)) = none := by
        simp_all [List.find?_eq_none]
      simp [this]
    · rename_i hn
      cases r.entities.find? (fun x => decide (x.name = n)) <;> simp [hn]

theorem put_parents (r : Registry) (e : Entity) : (r.put e).parents = r.parents := by
  unfold put
  split <;> rfl

theorem register_ok {r r' : Registry} {e : Entity} (h : r.register e = .ok r') :
    ∃ c : Entity, c.name = e.name ∧ c.children = e.children ∧
      ((e.parent? = none ∧ r'.parents = r.parents ∧
          ∀ n, r'.byName? n = if e.name = n then some c else r.byName? n) ∨
        ∃ P p, e.parent? = some P ∧ r.byName? P = some p ∧
          r'.parents = (e.name, P) :: r.parents.filter (·.1 ≠ e.name) ∧
          ∀ n, r'.byName? n = if e.name = n then some c
            else if P = n then
              some (if p.children.contains e.name then p
                else { p with children := p.children ++ [e.name] })
            else r.byName? n) := by
  unfold register at h
  split at h
  · rename_i hinh
    cases h
    exact ⟨e, rfl, rfl, .inl ⟨by simp [Entity.parent?, hinh], put_parents r e, byName?_put r e⟩⟩
  · rename_i inh hinh
    split at h
    · cases h
    · rename_i p hp
      cases h
      refine ⟨{ e with
          tableName := p.tableName, schema := p.schema
          columns := mergeMembers (·.propertyPath) p.columns e.columns
          relations := mergeMembers (·.propertyPath) p.relations e.relations },
        rfl, rfl, .inr ⟨inh.parent, p, by simp [Entity.parent?, hinh], hp, ?_, ?_⟩⟩
      · rw [put_parents]
        simp only [put_parents]
      intro n
      have hpn : p.name = inh.parent := byName?_name hp
      rw [byName?_put]
      split
      · rfl
      · show (r.put _).byName? n = _
        rw [byName?_put]
        split <;> simp_all

/-! ## Chains up the parent table -/

def ancestorIn (ps : List (String × String)) : Nat → String → Option String
  | 0, name => some name
  | k + 1, name => (ps.lookup name).bind (ancestorIn ps k)

section Chains

variable {ps : List (String × String)}

@[simp] theorem ancestorIn_zero (n : String) : ancestorIn ps 0 n = some n := rfl

theorem ancestorIn_succ (k : Nat) (n : String) :
    ancestorIn ps (k + 1) n = (ps.lookup n).bind (ancestorIn ps k) := rfl

theorem ancestorIn_add (a b : Nat) (n : String) :
    ancestorIn ps (a + b) n = (ancestorIn ps a n).bind (ancestorIn ps b) := by
  induction a generalizing n with
  | zero => simp
  | succ a ih =>
    rw [Nat.add_right_comm, ancestorIn_succ, ancestorIn_succ, Option.bind_assoc]
    simp only [ih]

theorem ancestorIn_one (n : String) : ancestorIn ps 1 n = ps.lookup n := by
  rw [ancestorIn_succ]
  cases ps.lookup n <;> rfl

theorem ancestorIn_succ' (k : Nat) (n : String) :
    ancestorIn ps (k + 1) n = (ancestorIn ps k n).bind (ps.lookup ·) := by
  rw [ancestorIn_add]
  simp only [ancestorIn_one]

theorem ancestorIn_eq_none_of_le {a b : Nat} {n : String} (h : ancestorIn ps a n = none)
    (hab : a ≤ b) : ancestorIn ps b n = none := by
  obtain ⟨c, rfl⟩ := Nat.exists_eq_add_of_le hab
  rw [ancestorIn_add, h, Option.bind_none]

theorem mem_of_lookup {c p : String} (h : ps.lookup c = some p) : (c, p) ∈ ps := by
  induction ps with
  | nil => simp at h
  | cons q ps ih =>
    obtain ⟨c', p'⟩ := q
    by_cases hc : c = c'
    · subst hc
      simp_all [List.lookup]
    · have hb : (c == c') = false := by simpa using hc
      have : ps.lookup c = some p := by simpa [List.lookup, hb] using h
      exact List.mem_cons_of_mem _ (ih this)

theorem ancestorIn_cons_of_ne {c p m : String} (hc : c ∉ ps.map (·.2)) (hm : m ≠ c) (k : Nat) :
    ancestorIn ((c, p) :: ps) k m = ancestorIn ps k m := by
  induction k generalizing m with
  | zero => rfl
  | succ k ih =>
    have hb : (m == c) = false := by simpa using hm
    have hl : ((c, p) :: ps).lookup m = ps.lookup m := by simp [List.lookup, hb]
    rw [ancestorIn_succ, ancestorIn_succ, hl]
    cases hq : ps.lookup m with
    | none => rfl
    | some q =>
      have hqc : q ≠ c := fun h => hc (List.mem_map.mpr ⟨(m, q), mem_of_lookup hq, by simp [h]⟩)
      exact ih hqc

end Chains

/-- A parent table read from its newest entry, in which every entry's child is new: it is no
child or parent of an older entry, and not its own parent. Registering each name once builds
such a table. -/
inductive OlderParents : List (String × String) → Prop
  | nil : OlderParents []
  | cons {c p : String} {ps : List (String × String)} : OlderParents ps →
      c ∉ ps.map (·.1) → c ∉ ps.map (·.2) → p ≠ c → OlderParents ((c, p) :: ps)

namespace OlderParents

variable {ps : List (String × String)}

theorem lookup_eq_some_iff (h : OlderParents ps) {c p : String} :
    ps.lookup c = some p ↔ (c, p) ∈ ps := by
  induction h with
  | nil => simp
  | @cons c' p' ps _ hkey _ _ ih =>
    by_cases hc : c = c'
    · subst hc
      have : (c, p) ∉ ps := fun hm => hkey (List.mem_map.mpr ⟨(c, p), hm, rfl⟩)
      simp [List.lookup, this, eq_comm]
    · have hb : (c == c') = false := by simpa using hc
      simp [List.lookup, hb, hc, ih]

theorem chain_ends (h : OlderParents ps) (n : String) :
    ancestorIn ps (ps.length + 1) n = none := by
  induction h generalizing n with
  | nil => rfl
  | @cons c p ps _ _ hpar hpc ih =>
    by_cases hn : n = c
    · subst hn
      have hl : ((n, p) :: ps).lookup n = some p := by simp [List.lookup]
      rw [List.length_cons, ancestorIn_succ, hl, Option.bind_some,
        ancestorIn_cons_of_ne hpar hpc]
      exact ih p
    · rw [ancestorIn_cons_of_ne hpar hn]
      exact ancestorIn_eq_none_of_le (ih n) (by simp)

theorem chain_ends_of_le (h : OlderParents ps) {k : Nat} (hk : ps.length < k) (n : String) :
    ancestorIn ps k n = none :=
  ancestorIn_eq_none_of_le (h.chain_ends n) hk

theorem eq_zero_of_loop (h : OlderParents ps) {j : Nat} {n : String}
    (hj : ancestorIn ps j n = some n) : j = 0 := by
  by_contra hne
  have hloop : ∀ m, ancestorIn ps (m * j) n = some n := by
    intro m
    induction m with
    | zero => simp
    | succ m ih => rw [Nat.succ_mul, ancestorIn_add, ih, Option.bind_some, hj]
  have hlen : ps.length < (ps.length + 1) * j :=
    Nat.lt_of_lt_of_le (Nat.lt_succ_self _) (Nat.le_mul_of_pos_right _ (Nat.pos_of_ne_zero hne))
  have hfar := hloop (ps.length + 1)
  rw [h.chain_ends_of_le hlen] at hfar
  cases hfar

theorem steps_unique (h : OlderParents ps) {a b : Nat} {n z : String}
    (ha : ancestorIn ps a n = some z) (hb : ancestorIn ps b n = some z) : a = b := by
  rcases Nat.le_total a b with hab | hab
  · obtain ⟨d, rfl⟩ := Nat.exists_eq_add_of_le hab
    rw [ancestorIn_add, ha, Option.bind_some] at hb
    simp [h.eq_zero_of_loop hb]
  · obtain ⟨d, rfl⟩ := Nat.exists_eq_add_of_le hab
    rw [ancestorIn_add, hb, Option.bind_some] at ha
    simp [h.eq_zero_of_loop ha]

theorem keys_nodup (h : OlderParents ps) : (ps.map (·.1)).Nodup := by
  induction h with
  | nil => simp
  | cons _ hkey _ _ ih => exact List.nodup_cons.mpr ⟨hkey, ih⟩

end OlderParents

/-! ## The subtype test climbs the chain -/

theorem isSubtypeOf_go_zero (r : Registry) (a n : String) :
    isSubtypeOf.go r a 0 n = decide (n = a) := by
  rw [isSubtypeOf.go.eq_def]
  by_cases h : n = a <;> simp [h]

theorem isSubtypeOf_go_succ (r : Registry) (a : String) (f : Nat) (n : String) :
    isSubtypeOf.go r a (f + 1) n =
      if n = a then true else (r.parentOf? n).elim false (isSubtypeOf.go r a f) := by
  rw [isSubtypeOf.go.eq_def]
  by_cases h : n = a
  · simp [h]
  · simp only [h, if_false]
    cases r.parentOf? n <;> rfl

theorem isSubtypeOf_go_iff (r : Registry) (a : String) (f : Nat) (n : String) :
    isSubtypeOf.go r a f n = true ↔ ∃ k ≤ f, ancestorIn r.parents k n = some a := by
  induction f generalizing n with
  | zero => simp [isSubtypeOf_go_zero]
  | succ f ih =>
    rw [isSubtypeOf_go_succ]
    by_cases hn : n = a
    · simp only [hn, if_true, true_iff]
      exact ⟨0, Nat.zero_le _, rfl⟩
    · simp only [hn, if_false]
      have hstep : ∀ k, ancestorIn r.parents (k + 1) n = (r.parentOf? n).bind
          (ancestorIn r.parents k) := fun k => rfl
      constructor
      · intro hgo
        cases hp : r.parentOf? n with
        | none => simp [hp] at hgo
        | some p =>
          rw [hp, Option.elim, ih] at hgo
          obtain ⟨k, hk, hka⟩ := hgo
          exact ⟨k + 1, Nat.succ_le_succ hk, by rw [hstep, hp, Option.bind_some, hka]⟩
      · rintro ⟨k, hk, hka⟩
        cases k with
        | zero => exact absurd (Option.some.inj hka) hn
        | succ k =>
          rw [hstep] at hka
          cases hp : r.parentOf? n with
          | none => simp [hp] at hka
          | some p =>
            rw [hp, Option.bind_some] at hka
            rw [Option.elim, ih]
            exact ⟨k, Nat.le_of_succ_le_succ hk, hka⟩

theorem isSubtypeOf_iff {r : Registry} (hend : ∀ n, ancestorIn r.parents (r.parents.length + 1) n = none)
    (y x : String) : r.isSubtypeOf y x = true ↔ ∃ k, ancestorIn r.parents k y = some x := by
  show isSubtypeOf.go r x (r.parents.length + 1) y = true ↔ _
  rw [isSubtypeOf_go_iff]
  constructor
  · rintro ⟨k, -, hk⟩
    exact ⟨k, hk⟩
  · rintro ⟨k, hk⟩
    refine ⟨k, ?_, hk⟩
    by_contra hlt
    rw [ancestorIn_eq_none_of_le (hend y) (Nat.le_of_not_le hlt)] at hk
    cases hk

/-! ## Paths down the recorded children -/

theorem mem_kids {r : Registry} {x : String} {k : Entity} :
    k ∈ r.kids x ↔
      ∃ e, r.byName? x = some e ∧ k.name ∈ e.children ∧ r.byName? k.name = some k := by
  unfold kids
  cases hx : r.byName? x with
  | none => simp
  | some e =>
    simp only [List.mem_filterMap, Option.some.injEq, exists_eq_left']
    constructor
    · rintro ⟨y, hy, hk⟩
      obtain rfl := byName?_name hk
      exact ⟨hy, hk⟩
    · rintro ⟨hy, hk⟩
      exact ⟨k.name, hy, hk⟩

theorem filterMap_byName?_names (r : Registry) (names : List String) :
    (names.filterMap r.byName?).map (·.name) = names.filter fun y => (r.byName? y).isSome := by
  induction names with
  | nil => rfl
  | cons y ys ih =>
    cases hy : r.byName? y with
    | none => simp [hy, ih]
    | some k => simp [hy, ih, byName?_name hy]

/-- A path down the recorded children from a name, through registered entities. -/
inductive KidPath (r : Registry) : String → List Entity → Prop
  | nil (x : String) : KidPath r x []
  | cons {x : String} {k : Entity} {p : List Entity} :
      k ∈ r.kids x → KidPath r k.name p → KidPath r x (k :: p)

def ChildRank (r : Registry) (ρ : String → Nat) : Prop :=
  ∀ x k, k ∈ r.kids x → ρ x < ρ k.name

namespace KidPath

variable {r : Registry} {x : String} {p : List Entity}

theorem rank_increasing {ρ : String → Nat} (hρ : r.ChildRank ρ) (h : r.KidPath x p) :
    (x :: p.map (·.name)).Pairwise (fun a b => ρ a < ρ b) := by
  induction h with
  | nil x => simp
  | @cons x k p hk _ ih =>
    refine List.Pairwise.cons ?_ ih
    intro b hb
    have hxk := hρ x k hk
    rcases List.mem_cons.mp hb with rfl | hb
    · exact hxk
    · exact hxk.trans (List.rel_of_pairwise_cons ih hb)

theorem nodup {ρ : String → Nat} (hρ : r.ChildRank ρ) (h : r.KidPath x p) :
    (x :: p.map (·.name)).Nodup :=
  (h.rank_increasing hρ).imp fun hlt heq => by subst heq; exact Nat.lt_irrefl _ hlt

theorem mem_entities (h : r.KidPath x p) : ∀ k ∈ p, k ∈ r.entities := by
  induction h with
  | nil => simp
  | @cons x k p hk _ ih =>
    intro k' hk'
    rcases List.mem_cons.mp hk' with rfl | hk'
    · obtain ⟨_, _, _, hreg⟩ := mem_kids.mp hk
      exact mem_of_byName? hreg
    · exact ih k' hk'

theorem length_le {ρ : String → Nat} (hρ : r.ChildRank ρ) (h : r.KidPath x p) :
    p.length ≤ r.entities.length := by
  have hnodup : (p.map (·.name)).Nodup := (List.nodup_cons.mp (h.nodup hρ)).2
  have hsub : p.map (·.name) ⊆ r.entities.map (·.name) := by
    intro y hy
    obtain ⟨k, hk, rfl⟩ := List.mem_map.mp hy
    exact List.mem_map_of_mem (h.mem_entities k hk)
  simpa using (hnodup.subperm hsub).length_le

end KidPath

theorem descendants_go_stable {r : Registry} {x : String} {f : Nat}
    (h : ∀ p, r.KidPath x p → p.length < f) (j : Nat) :
    descendants.go r (f + j) x = descendants.go r f x := by
  induction f generalizing x with
  | zero => exact absurd (h [] (.nil x)) (Nat.lt_irrefl 0)
  | succ f ih =>
    rw [Nat.add_right_comm]
    simp only [descendants.go]
    congr 1
    apply List.flatMap_congr
    intro k hk
    refine ih fun p hp => ?_
    have := h (k :: p) (.cons (List.mem_reverse.mp hk) hp)
    simp only [List.length_cons] at this
    omega

/-! ## Registration histories -/

/-- Registries reached from the empty one by successful registrations of entities as the builder
makes them, with no children of their own. A refused registration changes nothing. -/
inductive Built : Registry → Prop
  | empty : Built {}
  | register {r r' : Registry} {e : Entity} :
      Built r → e.children = [] → r.register e = .ok r' → Built r'

/-- Registries reached so with no name registered twice. -/
inductive BuiltOnce : Registry → Prop
  | empty : BuiltOnce {}
  | register {r r' : Registry} {e : Entity} : BuiltOnce r → e.children = [] →
      r.byName? e.name = none → r.register e = .ok r' → BuiltOnce r'

theorem BuiltOnce.built {r : Registry} (h : r.BuiltOnce) : r.Built := by
  induction h with
  | empty => exact .empty
  | register _ he _ hreg ih => exact .register ih he hreg

theorem byName?_of_register {r r' : Registry} {e en : Entity} {n : String}
    (h : r.register e = .ok r') (hn : n ≠ e.name) (hr : r'.byName? n = some en) :
    ∃ e₀, r.byName? n = some e₀ ∧ ∀ y ∈ en.children, y ≠ e.name → y ∈ e₀.children := by
  obtain ⟨c, -, -, hcases⟩ := register_ok h
  rcases hcases with ⟨-, -, hby⟩ | ⟨P, p, -, hp, -, hby⟩
  · rw [hby, if_neg (Ne.symm hn)] at hr
    exact ⟨en, hr, fun y hy _ => hy⟩
  · rw [hby, if_neg (Ne.symm hn)] at hr
    by_cases hPn : P = n
    · subst hPn
      rw [if_pos rfl] at hr
      cases hr
      refine ⟨p, hp, fun y hy hye => ?_⟩
      split at hy
      · exact hy
      · simpa [hye] using hy
    · rw [if_neg hPn] at hr
      exact ⟨en, hr, fun y hy _ => hy⟩

theorem byName?_self_of_register {r r' : Registry} {e : Entity} (h : r.register e = .ok r') :
    ∃ c, r'.byName? e.name = some c ∧ c.children = e.children := by
  obtain ⟨c, -, hcc, hcases⟩ := register_ok h
  rcases hcases with ⟨-, -, hby⟩ | ⟨P, p, -, -, -, hby⟩
  · exact ⟨c, by rw [hby, if_pos rfl], hcc⟩
  · exact ⟨c, by rw [hby, if_pos rfl], hcc⟩

theorem mem_kids_of_register {r r' : Registry} {e k : Entity} {x : String}
    (h : r.register e = .ok r') (he : e.children = []) (hk : k ∈ r'.kids x) :
    x ≠ e.name ∧ (∃ ex, r.byName? x = some ex) ∧
      (k.name = e.name ∨ ∃ k₀ ∈ r.kids x, k₀.name = k.name) := by
  obtain ⟨ex, hx, hkx, hreg⟩ := mem_kids.mp hk
  have hxe : x ≠ e.name := by
    rintro rfl
    obtain ⟨c, hc, hcc⟩ := byName?_self_of_register h
    rw [hc] at hx
    cases hx
    rw [hcc, he] at hkx
    cases hkx
  obtain ⟨e₀, hx₀, hsub⟩ := byName?_of_register h hxe hx
  refine ⟨hxe, ⟨e₀, hx₀⟩, ?_⟩
  by_cases hke : k.name = e.name
  · exact .inl hke
  · obtain ⟨k₀, hk₀, -⟩ := byName?_of_register h hke hreg
    have hname := byName?_name hk₀
    refine .inr ⟨k₀, mem_kids.mpr ⟨e₀, hx₀, hname ▸ hsub _ hkx hke, hname ▸ hk₀⟩, hname⟩

theorem Built.childRank {r : Registry} (h : r.Built) : ∃ ρ, r.ChildRank ρ := by
  induction h with
  | empty => exact ⟨fun _ => 0, fun x k hk => by simp [kids, byName?] at hk⟩
  | @register r r' e _ he hreg ih =>
    obtain ⟨ρ, hρ⟩ := ih
    let top := (r.entities.map fun x => ρ x.name).sum + 1
    refine ⟨fun y => if y = e.name then top else ρ y, fun x k hk => ?_⟩
    obtain ⟨hxe, ⟨ex, hx⟩, hcases⟩ := mem_kids_of_register hreg he hk
    simp only [if_neg hxe]
    by_cases hke : k.name = e.name
    · rw [if_pos hke]
      have : ρ x ≤ (r.entities.map fun x => ρ x.name).sum :=
        List.le_sum_of_mem (List.mem_map.mpr ⟨ex, mem_of_byName? hx, by rw [byName?_name hx]⟩)
      omega
    · rw [if_neg hke]
      rcases hcases with hke' | ⟨k₀, hk₀, hname⟩
      · exact absurd hke' hke
      · exact hname ▸ hρ x k₀ hk₀

/-! ## Registering every name once -/

/-- The hierarchy of a registry built with every name once: the parent table is ordered from
newest to oldest, names only registered entities, and agrees with the children lists. -/
structure Forest (r : Registry) : Prop where
  older : OlderParents r.parents
  registered : ∀ c p, (c, p) ∈ r.parents →
    (∃ e, r.byName? c = some e) ∧ ∃ e, r.byName? p = some e
  children : ∀ x e, r.byName? x = some e →
    e.children.Nodup ∧ ∀ y, y ∈ e.children ↔ (y, x) ∈ r.parents

theorem BuiltOnce.forest {r : Registry} (h : r.BuiltOnce) : r.Forest := by
  induction h with
  | empty => exact ⟨.nil, by simp, fun x e hx => by simp [byName?] at hx⟩
  | @register r r' e _ he hfresh hreg ih =>
    obtain ⟨c, -, hcc, hcases⟩ := register_ok hreg
    have hnotkey : ∀ p, (e.name, p) ∉ r.parents := fun p hm => by
      obtain ⟨⟨_, h₁⟩, -⟩ := ih.registered _ _ hm
      rw [hfresh] at h₁
      cases h₁
    have hnotpar : ∀ y, (y, e.name) ∉ r.parents := fun y hm => by
      obtain ⟨-, ⟨_, h₁⟩⟩ := ih.registered _ _ hm
      rw [hfresh] at h₁
      cases h₁
    have hfresh' : ∀ n e₀, r.byName? n = some e₀ → n ≠ e.name := by
      rintro n e₀ hn rfl
      rw [hfresh] at hn
      cases hn
    rcases hcases with ⟨-, hpar, hby⟩ | ⟨P, p, -, hp, hpar, hby⟩
    · have hkeep : ∀ n e₀, r.byName? n = some e₀ → r'.byName? n = some e₀ := fun n e₀ hn => by
        rw [hby, if_neg (Ne.symm (hfresh' n e₀ hn)), hn]
      refine ⟨hpar ▸ ih.older, ?_, ?_⟩
      · rw [hpar]
        intro y q hm
        obtain ⟨⟨ey, hy⟩, ⟨eq, hq⟩⟩ := ih.registered y q hm
        exact ⟨⟨ey, hkeep y ey hy⟩, ⟨eq, hkeep q eq hq⟩⟩
      · intro x ex hx
        rw [hpar]
        by_cases hxe : e.name = x
        · subst hxe
          rw [hby, if_pos rfl] at hx
          cases hx
          rw [hcc, he]
          exact ⟨List.nodup_nil, fun y => by simp [hnotpar y]⟩
        · rw [hby, if_neg hxe] at hx
          exact ih.children x ex hx
    · have hPe : P ≠ e.name := hfresh' P p hp
      have hfilter : r.parents.filter (·.1 ≠ e.name) = r.parents :=
        List.filter_eq_self.mpr fun q hq => by
          have : q.1 ≠ e.name := fun h => hnotkey q.2 (h ▸ hq)
          simpa using this
      have hnew : ¬ e.name ∈ p.children := fun hm => hnotkey P ((ih.children P p hp).2 _ |>.mp hm)
      have hadopt : (if p.children.contains e.name then p
          else { p with children := p.children ++ [e.name] }) =
          { p with children := p.children ++ [e.name] } := by simp [hnew]
      have hkeep : ∀ n e₀, r.byName? n = some e₀ → ∃ e₁, r'.byName? n = some e₁ := by
        intro n e₀ hn
        rw [hby, if_neg (Ne.symm (hfresh' n e₀ hn))]
        split
        · exact ⟨_, rfl⟩
        · exact ⟨e₀, hn⟩
      rw [hfilter] at hpar
      refine ⟨?_, ?_, ?_⟩
      · rw [hpar]
        refine .cons ih.older ?_ ?_ hPe
        · intro hm
          obtain ⟨q, hq, hqe⟩ := List.mem_map.mp hm
          exact hnotkey q.2 (hqe ▸ hq)
        · intro hm
          obtain ⟨q, hq, hqe⟩ := List.mem_map.mp hm
          exact hnotpar q.1 (hqe ▸ hq)
      · rw [hpar]
        intro y q hm
        rcases List.mem_cons.mp hm with heq | hm
        · obtain ⟨hy, hq⟩ := Prod.mk.inj heq
          rw [hy, hq]
          exact ⟨⟨c, by rw [hby, if_pos rfl]⟩, hkeep P p hp⟩
        · obtain ⟨⟨ey, hy⟩, ⟨eq, hq⟩⟩ := ih.registered y q hm
          exact ⟨hkeep y ey hy, hkeep q eq hq⟩
      · intro x ex hx
        rw [hpar]
        by_cases hxe : e.name = x
        · subst hxe
          rw [hby, if_pos rfl] at hx
          cases hx
          rw [hcc, he]
          refine ⟨List.nodup_nil, fun y => ?_⟩
          simp only [List.not_mem_nil, List.mem_cons, Prod.mk.injEq, false_iff, not_or]
          exact ⟨fun h => hPe h.2.symm, hnotpar y⟩
        · rw [hby, if_neg hxe] at hx
          by_cases hPx : P = x
          · subst hPx
            rw [if_pos rfl, hadopt] at hx
            cases hx
            obtain ⟨hnd, hiff⟩ := ih.children P p hp
            refine ⟨List.nodup_append.mpr ⟨hnd, List.nodup_singleton _, ?_⟩, fun y => ?_⟩
            · intro a ha b hb hab
              simp only [List.mem_singleton] at hb
              exact hnew (hb ▸ hab ▸ ha)
            · simp only [List.mem_append, List.mem_cons, List.not_mem_nil, or_false, Prod.mk.injEq,
                and_true, hiff]
              exact or_comm
          · rw [if_neg hPx] at hx
            obtain ⟨hnd, hiff⟩ := ih.children x ex hx
            refine ⟨hnd, fun y => ?_⟩
            rw [hiff, List.mem_cons, Prod.mk.injEq]
            constructor
            · exact .inr
            · rintro (⟨-, rfl⟩ | h)
              · exact absurd rfl hPx
              · exact h

namespace Forest

variable {r : Registry} (hf : r.Forest)
include hf

theorem parentOf?_eq_some_iff {c p : String} : r.parentOf? c = some p ↔ (c, p) ∈ r.parents :=
  hf.older.lookup_eq_some_iff

theorem registered_of_parentOf? {c p : String} (h : r.parentOf? c = some p) :
    ∃ e, r.byName? c = some e :=
  (hf.registered c p (hf.parentOf?_eq_some_iff.mp h)).1

theorem mem_kids_iff {x : String} {k : Entity} :
    k ∈ r.kids x ↔ r.byName? k.name = some k ∧ r.parentOf? k.name = some x := by
  rw [mem_kids, hf.parentOf?_eq_some_iff]
  constructor
  · rintro ⟨e, hx, hk, hreg⟩
    exact ⟨hreg, ((hf.children x e hx).2 k.name).mp hk⟩
  · rintro ⟨hreg, hpar⟩
    obtain ⟨e, hx⟩ := (hf.registered _ _ hpar).2
    exact ⟨e, hx, ((hf.children x e hx).2 k.name).mpr hpar, hreg⟩

theorem kids_names_nodup (x : String) : ((r.kids x).map (·.name)).Nodup := by
  unfold kids
  cases hx : r.byName? x with
  | none => exact List.nodup_nil
  | some e =>
    rw [filterMap_byName?_names]
    exact (hf.children x e hx).1.filter _

theorem mem_go_iff (f : Nat) (x : String) (k : Entity) :
    k ∈ descendants.go r f x ↔ r.byName? k.name = some k ∧
      ∃ j, 0 < j ∧ j ≤ f ∧ ancestorIn r.parents j k.name = some x := by
  induction f generalizing x k with
  | zero =>
    simp only [descendants.go, List.not_mem_nil, false_iff, not_and, not_exists]
    intro _ j hj hjf
    omega
  | succ f ih =>
    simp only [descendants.go, List.mem_append, List.mem_flatMap, List.mem_reverse, ih,
      hf.mem_kids_iff]
    constructor
    · rintro (⟨hk, hpx⟩ | ⟨k', ⟨-, hpx⟩, hk, j, hj0, hjf, hj⟩)
      · exact ⟨hk, 1, Nat.one_pos, by omega, by rw [ancestorIn_one]; exact hpx⟩
      · refine ⟨hk, j + 1, by omega, by omega, ?_⟩
        rw [ancestorIn_succ', hj, Option.bind_some]
        exact hpx
    · rintro ⟨hk, j, hj0, hjf, hj⟩
      obtain ⟨i, rfl⟩ : ∃ i, j = i + 1 := ⟨j - 1, by omega⟩
      rcases Nat.eq_zero_or_pos i with rfl | hi
      · left
        rw [ancestorIn_one] at hj
        exact ⟨hk, hj⟩
      · right
        rw [ancestorIn_succ'] at hj
        cases hm : ancestorIn r.parents i k.name with
        | none => rw [hm] at hj; cases hj
        | some m =>
          rw [hm, Option.bind_some] at hj
          obtain ⟨k', hk'⟩ := hf.registered_of_parentOf? hj
          obtain rfl := byName?_name hk'
          exact ⟨k', ⟨hk', hj⟩, hk, i, hi, by omega, hm⟩

theorem go_disjoint {f : Nat} {x : String} {k₁ k₂ : Entity} (hk₁ : k₁ ∈ r.kids x)
    (hk₂ : k₂ ∈ r.kids x) (hne : k₁.name ≠ k₂.name) :
    ((descendants.go r f k₁.name).map (·.name)).Disjoint
      ((descendants.go r f k₂.name).map (·.name)) := by
  intro y hy₁ hy₂
  obtain ⟨m₁, hm₁, rfl⟩ := List.mem_map.mp hy₁
  obtain ⟨m₂, hm₂, hname⟩ := List.mem_map.mp hy₂
  obtain ⟨-, j₁, -, -, hj₁⟩ := (hf.mem_go_iff f _ m₁).mp hm₁
  obtain ⟨-, j₂, -, -, hj₂⟩ := (hf.mem_go_iff f _ m₂).mp hm₂
  rw [hname] at hj₂
  have hp₁ := (hf.mem_kids_iff.mp hk₁).2
  have hp₂ := (hf.mem_kids_iff.mp hk₂).2
  have h₁ : ancestorIn r.parents (j₁ + 1) m₁.name = some x := by
    rw [ancestorIn_succ', hj₁, Option.bind_some]
    exact hp₁
  have h₂ : ancestorIn r.parents (j₂ + 1) m₁.name = some x := by
    rw [ancestorIn_succ', hj₂, Option.bind_some]
    exact hp₂
  have hj : j₁ = j₂ := Nat.succ_injective (hf.older.steps_unique h₁ h₂)
  subst hj
  rw [hj₁] at hj₂
  exact hne (Option.some.inj hj₂)

theorem nodup_go (f : Nat) (x : String) : ((descendants.go r f x).map (·.name)).Nodup := by
  induction f generalizing x with
  | zero => simp [descendants.go]
  | succ f ih =>
    simp only [descendants.go, List.map_append, List.map_flatMap]
    refine List.nodup_append.mpr ⟨hf.kids_names_nodup x, List.nodup_flatMap.mpr ⟨fun k _ => ih k.name, ?_⟩, ?_⟩
    · refine List.pairwise_reverse.mpr ((List.pairwise_map.mp (hf.kids_names_nodup x)).imp_of_mem ?_)
      intro k₁ k₂ hk₁ hk₂ hne
      exact hf.go_disjoint hk₂ hk₁ (Ne.symm hne)
    · intro a ha b hb hab
      subst hab
      obtain ⟨k, hk, rfl⟩ := List.mem_map.mp ha
      obtain ⟨k', hk', hb⟩ := List.mem_flatMap.mp hb
      obtain ⟨m, hm, hmk⟩ := List.mem_map.mp hb
      obtain ⟨-, j, hj0, -, hj⟩ := (hf.mem_go_iff f _ m).mp hm
      have hpk := (hf.mem_kids_iff.mp hk).2
      have hpk' := (hf.mem_kids_iff.mp (List.mem_reverse.mp hk')).2
      rw [hmk] at hj
      have h₁ : ancestorIn r.parents 1 k.name = some x := by rw [ancestorIn_one]; exact hpk
      have h₂ : ancestorIn r.parents (j + 1) k.name = some x := by
        rw [ancestorIn_succ', hj, Option.bind_some]
        exact hpk'
      have := hf.older.steps_unique h₁ h₂
      omega

theorem parents_length_le : r.parents.length ≤ r.entities.length := by
  have hsub : r.parents.map (·.1) ⊆ r.entities.map (·.name) := by
    intro c hc
    obtain ⟨q, hq, rfl⟩ := List.mem_map.mp hc
    obtain ⟨⟨e, he⟩, -⟩ := hf.registered q.1 q.2 hq
    exact List.mem_map.mpr ⟨e, mem_of_byName? he, byName?_name he⟩
  simpa using (hf.older.keys_nodup.subperm hsub).length_le

theorem mem_descendants_iff (x y : String) :
    y ∈ (r.descendants x).map (·.name) ↔ y ≠ x ∧ r.isSubtypeOf y x = true := by
  rw [isSubtypeOf_iff hf.older.chain_ends]
  show y ∈ (descendants.go r (r.entities.length + 1) x).map (·.name) ↔ _
  simp only [List.mem_map, hf.mem_go_iff]
  constructor
  · rintro ⟨k, ⟨-, j, hj0, -, hj⟩, rfl⟩
    refine ⟨fun hkx => ?_, j, hj⟩
    rw [hkx] at hj
    exact absurd (hf.older.eq_zero_of_loop hj) (Nat.pos_iff_ne_zero.mp hj0)
  · rintro ⟨hne, j, hj⟩
    have hj0 : 0 < j := by
      rcases Nat.eq_zero_or_pos j with rfl | h
      · exact absurd (Option.some.inj hj) hne
      · exact h
    have hjlen : j ≤ r.parents.length := by
      by_contra hlt
      rw [hf.older.chain_ends_of_le (Nat.lt_of_not_le hlt)] at hj
      cases hj
    obtain ⟨i, rfl⟩ : ∃ i, j = i + 1 := ⟨j - 1, by omega⟩
    rw [ancestorIn_succ] at hj
    cases hy : r.parents.lookup y with
    | none => rw [hy] at hj; cases hj
    | some q =>
      obtain ⟨k, hk⟩ := hf.registered_of_parentOf? (p := q) hy
      obtain rfl := byName?_name hk
      rw [← ancestorIn_succ] at hj
      exact ⟨k, ⟨hk, i + 1, hj0, by have := hf.parents_length_le; omega, hj⟩, rfl⟩

end Forest

/-! ## The hierarchy after registrations -/

/-- After any registrations of entities as the builder makes them, no path down the recorded
children comes back to a name it passed, and the walk of `descendants` has ended below its
bound. When no name was registered twice, every chain up the parent table ends within the
table's length, the subtype test answers what the chain says, and `descendants` lists every
proper subtype exactly once. -/
theorem registrations_keep_hierarchy {r : Registry} (h : r.Built) :
    (∀ x p, r.KidPath x p → (x :: p.map (·.name)).Nodup) ∧
    (∀ x f, r.entities.length < f → descendants.go r f x = r.descendants x) ∧
    (r.BuiltOnce →
      (∀ y, ancestorIn r.parents (r.parents.length + 1) y = none) ∧
      (∀ y x, r.isSubtypeOf y x = true ↔ ∃ k, ancestorIn r.parents k y = some x) ∧
      ∀ x, ((r.descendants x).map (·.name)).Nodup ∧
        ∀ y, y ∈ (r.descendants x).map (·.name) ↔ y ≠ x ∧ r.isSubtypeOf y x = true) := by
  obtain ⟨ρ, hρ⟩ := h.childRank
  refine ⟨fun x p hp => hp.nodup hρ, fun x f hf => ?_, fun ho => ?_⟩
  · obtain ⟨j, rfl⟩ := Nat.exists_eq_add_of_lt hf
    rw [Nat.add_right_comm]
    exact descendants_go_stable (fun p hp => Nat.lt_succ_of_le (hp.length_le hρ)) j
  · have hf := ho.forest
    exact ⟨hf.older.chain_ends, isSubtypeOf_iff hf.older.chain_ends,
      fun x => ⟨hf.nodup_go _ x, hf.mem_descendants_iff x⟩⟩

/-- `Article` registered under `Content`: `Content`'s descendants are its proper subtypes. -/
theorem registrations_keep_hierarchy_articles :
    let content := Entity.declare "Content" "content"
    let article := (Entity.declare "Article" "article").extends_ "Content" "article"
    let r := match (({} : Registry).register content).bind (·.register article) with
      | .ok r => r
      | .error _ => {}
    r.Built ∧ ∀ y, y ∈ (r.descendants "Content").map (·.name) ↔
      y ≠ "Content" ∧ r.isSubtypeOf y "Content" = true := by
  intro content article r
  have h₁ : ({} : Registry).register content = .ok (({} : Registry).put content) := rfl
  have h₂ : (({} : Registry).put content).register article = .ok r := rfl
  have hb : r.BuiltOnce := .register (.register .empty rfl rfl h₁) rfl rfl h₂
  exact ⟨hb.built, (((registrations_keep_hierarchy hb.built).2.2 hb).2.2 "Content").2⟩

/-- Registering an entity again with itself as parent makes its chain come back to it at every
step: the subtype test of the source, asked from it about any other name, climbs forever. -/
theorem ancestorIn_own_parent {r r' : Registry} {e : Entity} (hp : e.parent? = some e.name)
    (h : r.register e = .ok r') (k : Nat) : ancestorIn r'.parents k e.name = some e.name := by
  obtain ⟨c, -, -, hcases⟩ := register_ok h
  rcases hcases with ⟨hnone, -, -⟩ | ⟨P, p, hP, -, hpar, -⟩
  · rw [hp] at hnone
    cases hnone
  · obtain rfl : e.name = P := Option.some.inj (hp.symm.trans hP)
    have hl : r'.parents.lookup e.name = some e.name := by rw [hpar]; simp [List.lookup]
    induction k with
    | zero => rfl
    | succ k ih => rw [ancestorIn_succ, hl, Option.bind_some, ih]

/-- `C` registered first under `B`, then again under `A`: `A` records both its children, `B`
still records `C`, and the walk from `A` lists `C` twice. -/
theorem descendants_twice_after_reregistration :
    let a := Entity.declare "A" "a"
    let b := (Entity.declare "B" "b").extends_ "A" "b"
    let c := Entity.declare "C" "c"
    (({} : Registry).registerAll [a, b, c.extends_ "B" "c", c.extends_ "A" "c"]).toOption.map
      (fun r => (r.descendants "A").map (·.name)) = some ["B", "C", "C"] := by
  decide +kernel

end Registry

end EntitySql
