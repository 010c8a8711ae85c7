import Mathlib
import EntitySql.Proofs.Builder.FreshNames

set_option mvcgen.warning false

/-!
# Builders that share one counter of made-up names

A query, the bracket groups and subqueries derived from it, and those derived from them in turn
take their made-up parameter names from one counter, while each keeps parameters of its own
(`QueryState.deriveChild`, `QueryState.deriveSubQuery`). A `Family` is such a set of builders
with their counter. A `Family.Call` acts on one member: it binds a value, runs a building step,
derives a bracket group or a subquery, or sets the parameters of one member on another. The
members may be called in any order, and each sees the counter where the last call left it. A
copy of a builder is no member: it counts on by itself.

`Family.Valid` is the invariant: every made-up name a member binds is numbered below the
counter, and members that bind one made-up name bind it to one value. Each call keeps it
(`Family.Valid.call`), given that its step keeps the made-up names (`QueryM.KeepsNames`, which
every step of the builders has), and so does every run of calls (`Family.Valid.run`).

Main statement (`Family.run_bound_names_fresh`): in every run of such calls, the names bound are
pairwise distinct, a name being bound is no parameter of any member, and setting the parameters
of one member on another leaves each made-up parameter of the latter as it was.
-/

namespace EntitySql

open QueryM

theorem QueryM.bindValue_run (v : Value) (s : QueryState) :
    (bindValue v).run.run s = (.ok (paramName s.counter),
      { s with counter := s.counter + 1,
               parameters := setParam s.parameters (paramName s.counter) v }) := rfl

/-- Builders that take their made-up parameter names from one counter. -/
structure Family where
  counter : Nat
  members : List QueryState

namespace Family

def single (s : QueryState) : Family := ⟨s.counter, [s]⟩

def view (F : Family) (i : Nat) : Option QueryState :=
  F.members[i]?.map fun s => { s with counter := F.counter }

def update (F : Family) (i : Nat) (s : QueryState) : Family := ⟨s.counter, F.members.set i s⟩

@[simp] theorem update_counter (F : Family) (i : Nat) (s : QueryState) :
    (F.update i s).counter = s.counter := rfl

@[simp] theorem update_members (F : Family) (i : Nat) (s : QueryState) :
    (F.update i s).members = F.members.set i s := rfl

/-- A state derived from member `i`, added as the last member. -/
def addDerived (F : Family) (i : Nat) (derive : QueryState → QueryState) : Family :=
  match F.view i with
  | some s => ⟨F.counter, F.members ++ [derive s]⟩
  | none => F

@[simp] theorem addDerived_counter (F : Family) (i : Nat) (derive : QueryState → QueryState) :
    (F.addDerived i derive).counter = F.counter := by
  unfold addDerived
  split <;> rfl

/-- A call on one member of a family. -/
inductive Call where
  | bind (i : Nat) (v : Value)
  | step (i : Nat) (x : QueryM Unit)
  | deriveChild (i : Nat)
  | deriveSubQuery (i : Nat)
  /-- Set the parameters of member `j` on member `i`. -/
  | merge (i j : Nat)

/-- The family after a call, and the name the call bound, if it bound one. A call on a member the
family lacks changes nothing. -/
def call (F : Family) : Call → Family × Option String
  | .bind i v =>
    match F.view i with
    | some s =>
      let r := (bindValue v).run.run s
      (F.update i r.2, r.1.toOption)
    | none => (F, none)
  | .step i x =>
    match F.view i with
    | some s => (F.update i (s.apply x), none)
    | none => (F, none)
  | .deriveChild i => (F.addDerived i QueryState.deriveChild, none)
  | .deriveSubQuery i => (F.addDerived i QueryState.deriveSubQuery, none)
  | .merge i j =>
    match F.view i, F.members[j]? with
    | some s, some t => (F.update i (s.apply (mergeParameters t.parameters)), none)
    | _, _ => (F, none)

/-- Calls in order: the family after them, and the names they bound, in order. -/
def run (F : Family) : List Call → Family × List String
  | [] => (F, [])
  | c :: cs =>
    let r := F.call c
    let rest := r.1.run cs
    (rest.1, r.2.toList ++ rest.2)

theorem run_cons (F : Family) (c : Call) (cs : List Call) :
    F.run (c :: cs) = (((F.call c).1.run cs).1, (F.call c).2.toList ++ ((F.call c).1.run cs).2) :=
  rfl

def param? (F : Family) (i : Nat) (k : String) : Option Value :=
  F.members[i]?.bind fun s => s.parameters.lookup k

/-- The made-up names of a family are below its counter, and bound to one value each. -/
structure Valid (F : Family) : Prop where
  below : ∀ s ∈ F.members, ∀ n v, (paramName n, v) ∈ s.parameters → n < F.counter
  agree : ∀ s ∈ F.members, ∀ t ∈ F.members, ∀ n v w,
    (paramName n, v) ∈ s.parameters → (paramName n, w) ∈ t.parameters → v = w

def Call.KeepsNames : Call → Prop
  | .step _ x => ∀ start old, QueryM.KeepsNames start old x
  | _ => True

theorem view_eq_some {F : Family} {i : Nat} {s : QueryState} :
    F.view i = some s ↔
      ∃ m, F.members[i]? = some m ∧ s = { m with counter := F.counter } := by
  simp only [view, Option.map_eq_some_iff]
  constructor
  · rintro ⟨m, hm, rfl⟩; exact ⟨m, hm, rfl⟩
  · rintro ⟨m, hm, rfl⟩; exact ⟨m, hm, rfl⟩

namespace Valid

variable {F : Family}

theorem namesFrom (hF : F.Valid) {m : QueryState} (hm : m ∈ F.members) :
    NamesFrom F.counter m.parameters F.counter m.parameters :=
  ⟨le_refl _, hF.below m hm, hF.agree m hm m hm, fun _ _ _ => Iff.rfl⟩

theorem update (hF : F.Valid) {i : Nat} {m s : QueryState} (hm : F.members[i]? = some m)
    (h : NamesFrom F.counter m.parameters s.counter s.parameters) : (F.update i s).Valid := by
  have hmem : m ∈ F.members := List.mem_of_getElem? hm
  have hold : ∀ t ∈ F.members, ∀ n v w, (paramName n, v) ∈ s.parameters →
      (paramName n, w) ∈ t.parameters → v = w := fun t ht n v w hv hw =>
    hF.agree m hmem t ht n v w ((h.kept n (hF.below t ht n w hw) v).mp hv) hw
  constructor
  · intro t ht n v hv
    rcases List.mem_or_eq_of_mem_set ht with hto | rfl
    · exact (hF.below t hto n v hv).trans_le h.start_le
    · exact h.below n v hv
  · intro t ht t' ht' n v w hv hw
    rcases List.mem_or_eq_of_mem_set ht with hto | rfl <;>
      rcases List.mem_or_eq_of_mem_set ht' with hto' | rfl
    · exact hF.agree t hto t' hto' n v w hv hw
    · exact (hold t hto n w v hw hv).symm
    · exact hold t' hto' n v w hv hw
    · exact h.unique n v w hv hw

theorem addDerived (hF : F.Valid) (i : Nat) {derive : QueryState → QueryState}
    (hd : ∀ s, (derive s).parameters = []) : (F.addDerived i derive).Valid := by
  unfold Family.addDerived
  split
  · constructor
    · intro t ht n v hv
      rcases List.mem_append.mp ht with ht | ht
      · exact hF.below t ht n v hv
      · simp_all
    · intro t ht t' ht' n v w hv hw
      rcases List.mem_append.mp ht with ht | ht <;> rcases List.mem_append.mp ht' with ht' | ht'
      · exact hF.agree t ht t' ht' n v w hv hw
      all_goals simp_all
  · exact hF

theorem merge (hF : F.Valid) {i j : Nat} {m t s : QueryState} (hm : F.members[i]? = some m)
    (ht : F.members[j]? = some t) (hc : s.counter = F.counter)
    (hp : s.parameters = mergeParams m.parameters t.parameters) : (F.update i s).Valid := by
  have hsrc : ∀ n v, (paramName n, v) ∈ s.parameters →
      ∃ u ∈ F.members, (paramName n, v) ∈ u.parameters :=
    fun n v hv => (mem_mergeParams (hp ▸ hv)).elim (fun h => ⟨m, List.mem_of_getElem? hm, h⟩)
      (fun h => ⟨t, List.mem_of_getElem? ht, h⟩)
  have hside : ∀ x ∈ (F.update i s).members, ∀ n v, (paramName n, v) ∈ x.parameters →
      ∃ u ∈ F.members, (paramName n, v) ∈ u.parameters := by
    intro x hx n v hv
    rcases List.mem_or_eq_of_mem_set hx with hxo | rfl
    · exact ⟨x, hxo, hv⟩
    · exact hsrc n v hv
  constructor
  · intro x hx n v hv
    obtain ⟨u, hu, huv⟩ := hside x hx n v hv
    show n < s.counter
    exact hc ▸ hF.below u hu n v huv
  · intro x hx x' hx' n v w hv hw
    obtain ⟨u, hu, huv⟩ := hside x hx n v hv
    obtain ⟨u', hu', huw⟩ := hside x' hx' n w hw
    exact hF.agree u hu u' hu' n v w huv huw

end Valid

theorem lookup_eq_some_of_mem {ps : List (String × Value)} {k : String} {v : Value}
    (h : (k, v) ∈ ps) (hu : ∀ w, (k, w) ∈ ps → w = v) : ps.lookup k = some v := by
  obtain ⟨w, hw⟩ := Option.isSome_iff_exists.mp
    (List.lookup_isSome_iff.mpr ⟨(k, v), h, beq_self_eq_true k⟩)
  obtain ⟨l₁, l₂, hl, -⟩ := List.lookup_eq_some_iff.mp hw
  rw [hw, hu w (by simp [hl])]

theorem mem_of_lookup_eq_some {ps : List (String × Value)} {k : String} {v : Value}
    (h : ps.lookup k = some v) : (k, v) ∈ ps := by
  obtain ⟨l₁, l₂, hl, -⟩ := List.lookup_eq_some_iff.mp h
  simp [hl]

variable {F : Family}

theorem Valid.call (hF : F.Valid) {c : Call} (hc : c.KeepsNames) :
    (F.call c).1.Valid ∧ F.counter ≤ (F.call c).1.counter := by
  cases c with
  | bind i v =>
    simp only [Family.call]
    split
    · next s hs =>
      obtain ⟨m, hm, rfl⟩ := view_eq_some.mp hs
      have h := (hF.namesFrom (List.mem_of_getElem? hm)).bind (v := v)
      exact ⟨hF.update hm h, Nat.le_succ _⟩
    · exact ⟨hF, le_refl _⟩
  | step i x =>
    simp only [Family.call]
    split
    · next s hs =>
      obtain ⟨m, hm, rfl⟩ := view_eq_some.mp hs
      have h := (hc F.counter m.parameters).run (s := { m with counter := F.counter })
        (hF.namesFrom (List.mem_of_getElem? hm))
      exact ⟨hF.update hm h, h.start_le⟩
    · exact ⟨hF, le_refl _⟩
  | deriveChild i => exact ⟨hF.addDerived i fun _ => rfl, (addDerived_counter F i _).ge⟩
  | deriveSubQuery i => exact ⟨hF.addDerived i fun _ => rfl, (addDerived_counter F i _).ge⟩
  | merge i j =>
    simp only [Family.call]
    split
    · next s t hs ht =>
      obtain ⟨m, hm, rfl⟩ := view_eq_some.mp hs
      exact ⟨hF.merge hm ht rfl rfl, le_refl _⟩
    · exact ⟨hF, le_refl _⟩

theorem call_snd_eq_some {c : Call} {name : String} (h : (F.call c).2 = some name) :
    name = paramName F.counter ∧ (F.call c).1.counter = F.counter + 1 := by
  cases c with
  | bind i v =>
    simp only [Family.call] at h ⊢
    split at h
    · next s hs =>
      obtain ⟨m, hm, rfl⟩ := view_eq_some.mp hs
      simp only [bindValue_run, Except.toOption, Option.some.injEq] at h
      simp [bindValue_run, ← h, update]
    · simp at h
  | step i x =>
    simp only [Family.call] at h
    split at h <;> simp at h
  | deriveChild i => simp [Family.call] at h
  | deriveSubQuery i => simp [Family.call] at h
  | merge i j =>
    simp only [Family.call] at h
    split at h <;> simp at h

/-- Along a run of calls that keep the made-up names the family stays valid, and every name
bound is numbered from the counter at the start on and below the counter at the end. -/
theorem Valid.run (hF : F.Valid) {cs : List Call} (hc : ∀ c ∈ cs, c.KeepsNames) :
    (F.run cs).1.Valid ∧ F.counter ≤ (F.run cs).1.counter ∧
      ∀ name ∈ (F.run cs).2,
        ∃ n, name = paramName n ∧ F.counter ≤ n ∧ n < (F.run cs).1.counter := by
  induction cs generalizing F with
  | nil => exact ⟨hF, le_refl _, by simp [Family.run]⟩
  | cons c cs ih =>
    obtain ⟨hF₁, hle₁⟩ := hF.call (hc c List.mem_cons_self)
    obtain ⟨hF₂, hle₂, hnames⟩ := ih hF₁ fun c' h => hc c' (List.mem_cons_of_mem _ h)
    refine ⟨hF₂, hle₁.trans hle₂, ?_⟩
    intro name hname
    rw [run_cons, List.mem_append] at hname
    rcases hname with hname | hname
    · -- the name the first call bound
      obtain ⟨rfl, hcount⟩ := call_snd_eq_some (Option.mem_toList.mp hname)
      refine ⟨F.counter, rfl, le_refl _, ?_⟩
      show F.counter < ((F.call c).1.run cs).1.counter
      omega
    · obtain ⟨n, rfl, hlo, hhi⟩ := hnames name hname
      exact ⟨n, rfl, hle₁.trans hlo, hhi⟩

theorem Valid.nodup_run (hF : F.Valid) {cs : List Call} (hc : ∀ c ∈ cs, c.KeepsNames) :
    (F.run cs).2.Nodup := by
  induction cs generalizing F with
  | nil => simp [Family.run]
  | cons c cs ih =>
    obtain ⟨hF₁, -⟩ := hF.call (hc c List.mem_cons_self)
    have hrest : ∀ c' ∈ cs, c'.KeepsNames := fun c' h => hc c' (List.mem_cons_of_mem _ h)
    rw [run_cons]
    cases hbound : (F.call c).2 with
    | none => simpa using ih hF₁ hrest
    | some name =>
      obtain ⟨rfl, hcount⟩ := call_snd_eq_some hbound
      refine List.nodup_cons.mpr ⟨fun hmem => ?_, ih hF₁ hrest⟩
      obtain ⟨n, hn, hlo, -⟩ := (hF₁.run hrest).2.2 _ hmem
      have := paramName_injective hn
      omega

theorem Valid.bind_fresh (hF : F.Valid) {i : Nat} {v : Value} {name : String}
    (h : (F.call (.bind i v)).2 = some name) :
    ∀ s ∈ F.members, name ∉ s.parameters.map (·.1) := by
  obtain ⟨rfl, -⟩ := call_snd_eq_some h
  intro s hs hmem
  obtain ⟨⟨k, w⟩, hkw, hk⟩ := List.mem_map.mp hmem
  simp only at hk
  subst hk
  exact absurd (hF.below s hs _ w hkw) (lt_irrefl _)

theorem Valid.merge_keeps (hF : F.Valid) {i j n : Nat} {v : Value}
    (h : F.param? i (paramName n) = some v) :
    (F.call (.merge i j)).1.param? i (paramName n) = some v := by
  obtain ⟨m, hm, hv⟩ := Option.bind_eq_some_iff.mp h
  have hmem := List.mem_of_getElem? hm
  have hvm := mem_of_lookup_eq_some hv
  simp only [Family.call]
  split
  · next s t hs ht =>
    obtain ⟨m', hm', rfl⟩ := view_eq_some.mp hs
    have hmm : m = m' := Option.some.inj (hm.symm.trans hm')
    subst hmm
    have hi : i < F.members.length := (List.getElem?_eq_some_iff.mp hm).1
    simp only [param?, update_members, List.getElem?_set_self hi, Option.bind_some]
    obtain ⟨w, hw⟩ : ∃ w, (paramName n, w) ∈ mergeParams m.parameters t.parameters :=
      exists_mem_mergeParams hvm
    have hagree :
        ∀ w', (paramName n, w') ∈ mergeParams m.parameters t.parameters → w' = v := by
      intro w' hw'
      rcases mem_mergeParams hw' with h' | h'
      · exact hF.agree m hmem m hmem n w' v h' hvm
      · exact hF.agree t (List.mem_of_getElem? ht) m hmem n w' v h' hvm
    exact lookup_eq_some_of_mem (hagree w hw ▸ hw) hagree
  · exact h

theorem valid_single {s : QueryState} {start : Nat} {old : List (String × Value)}
    (h : NamesFrom start old s.counter s.parameters) : (single s).Valid where
  below := by
    intro t ht
    rw [single, List.mem_singleton.mp ht]
    exact h.below
  agree := by
    intro t ht t' ht'
    rw [single, List.mem_singleton.mp ht] at *
    rw [List.mem_singleton.mp ht']
    exact h.unique

theorem valid_single_builder (reg : Registry) (d : Dialect) (cacheAlways : Bool)
    (source : Option (String × String)) (target entity property : String) :
    (single (Builder.select reg d cacheAlways source)).Valid ∧
      (single (Builder.insert d)).Valid ∧
      (single (Builder.update reg d target)).Valid ∧
      (single (Builder.delete reg d target)).Valid ∧
      (single (RelationQuery.new reg d entity property)).Valid := by
  have hnew : ∀ s : QueryState, s.counter = 0 → s.parameters = [] →
      NamesFrom 0 [] s.counter s.parameters := fun s hc hp => by
    rw [hc, hp]
    exact NamesFrom.empty 0
  have hrun : ∀ (x : QueryM Unit) (s : QueryState), KeepsNames 0 [] x → s.counter = 0 →
      s.parameters = [] → (single (s.apply x)).Valid :=
    fun x s hx hc hp => valid_single (hx.run (hnew s hc hp))
  refine ⟨?_, valid_single (hnew _ rfl rfl), ?_, ?_, ?_⟩
  · cases source with
    | none => exact valid_single (hnew _ rfl rfl)
    | some p => exact hrun _ _ (by mvcgen) rfl rfl
  · exact hrun _ _ (by mvcgen) rfl rfl
  · exact hrun _ _ (by mvcgen) rfl rfl
  · exact valid_single ((show KeepsNames 0 [] (do let _ ← record (registerMain reg entity none))
      by mvcgen).run (hnew _ rfl rfl))

/-- In every interleaving of calls on a family that keep the made-up names, the names bound are
pairwise distinct, a name being bound is no parameter of any member, and setting one member's
parameters on another leaves each made-up parameter of the latter as it was. -/
theorem run_bound_names_fresh {F : Family} (hF : F.Valid) {calls : List Call}
    (hcalls : ∀ c ∈ calls, c.KeepsNames) :
    (F.run calls).2.Nodup ∧
      (∀ i v name, ((F.run calls).1.call (.bind i v)).2 = some name →
        ∀ s ∈ (F.run calls).1.members, name ∉ s.parameters.map (·.1)) ∧
      (∀ i j n v, (F.run calls).1.param? i (paramName n) = some v →
        ((F.run calls).1.call (.merge i j)).1.param? i (paramName n) = some v) := by
  have hrun := (hF.run hcalls).1
  exact ⟨hF.nodup_run hcalls, fun _ _ _ h => hrun.bind_fresh h,
    fun _ _ _ _ h => hrun.merge_keeps h⟩

example : ((single (QueryState.new .postgres .select)).run
    [.bind 0 (.int 1), .deriveSubQuery 0, .bind 1 (.int 2), .merge 0 1, .bind 0 (.int 3)]).2 =
    ["orm_param_0", "orm_param_1", "orm_param_2"] := by rfl

/-- A query and a subquery of it, used in turn: the subquery sets a parameter of its own, both
bind values, and the subquery's parameters are set on the query. -/
theorem run_bound_names_fresh_subquery :
    let F := single (QueryState.new .postgres .select)
    let calls : List Call := [.bind 0 (.int 1), .deriveSubQuery 0,
      .step 1 (QueryM.setParameter "limit" (.int 10)), .bind 1 (.int 2), .bind 0 (.int 3),
      .merge 0 1, .deriveChild 0, .bind 2 (.int 4)]
    F.Valid ∧ (∀ c ∈ calls, c.KeepsNames) ∧
      ((F.run calls).2.Nodup ∧
        (∀ i v name, ((F.run calls).1.call (.bind i v)).2 = some name →
          ∀ s ∈ (F.run calls).1.members, name ∉ s.parameters.map (·.1)) ∧
        (∀ i j n v, (F.run calls).1.param? i (paramName n) = some v →
          ((F.run calls).1.call (.merge i j)).1.param? i (paramName n) = some v)) := by
  intro F calls
  have hF : F.Valid := valid_single (NamesFrom.empty 0)
  have hcalls : ∀ c ∈ calls, c.KeepsNames := by
    intro c hc
    simp only [calls, List.mem_cons, List.not_mem_nil, or_false] at hc
    rcases hc with rfl | rfl | rfl | rfl | rfl | rfl | rfl | rfl
    case inr.inr.inl =>
      exact fun start old => setParameter_keepsNames start old
        (not_madeUp_of_toList fun t => by simp) _
    all_goals trivial
  exact ⟨hF, hcalls, run_bound_names_fresh hF hcalls⟩

end Family

end EntitySql
