import EntitySql.Schema.Builder
import Mathlib.Data.String.Basic

/-!
# Reading back what a property path wrote

`Json.setPath` writes a value at a dotted path and `Json.getPath?` reads one. Both cut the path at
every dot, empty segments included (`String.splitOn_dot`), and walk the same keys, so reading the
path just written gives the value written (`Json.getPath?_setPath`). A write leaves alone every
path whose segments part from the written path's before either ends
(`Json.getPath?_setPath_of_not_prefix`): the objects the write creates or replaces on the way lie
on the written path only, and what they replace held nothing such a path could read.

A column reads and writes its value through its property path; a join column goes through the
relation's property instead, to the referenced property of the related object, or to the bare
value held there. The write is read back for every entity object and value exactly when a join
column names the property it references (`Column.setValue_readBack_iff`), and every column of an
entity the builder declares does (`Entity.Declared.namesReference`).
-/

namespace EntitySql

/-! ## The segments of a dotted path -/

theorem String.splitOnAux_dot (s : String) (b i : String.Pos.Raw) (r : List String) :
    String.splitOnAux s "." b i 0 r = String.splitAux s (· == '.') b i r := by
  have hsep : String.Pos.Raw.get "." 0 = '.' := by decide
  have hnext : String.Pos.Raw.next "." 0 = ⟨1⟩ := by decide
  have hend : String.Pos.Raw.atEnd "." ⟨1⟩ = true := by decide
  fun_induction String.splitAux s (· == '.') b i r with
  | case1 b i r h =>
    rw [String.splitOnAux, if_pos h]
  | case2 b i r h _ hp i' ih =>
    have hi : (String.Pos.Raw.next s i).unoffsetBy ⟨1⟩ = i := by
      have hsize : '.'.utf8Size = 1 := rfl
      simp only [beq_iff_eq] at hp
      simp [String.Pos.Raw.next, String.Pos.Raw.unoffsetBy, hp, hsize]
    rw [String.splitOnAux, if_neg (by simpa using h), hsep, if_pos hp]
    simp only [hnext, hend, if_true, hi]
    exact ih
  | case3 b i r h _ hp ih =>
    rw [String.splitOnAux, if_neg (by simpa using h), hsep, if_neg (by simpa using hp)]
    simpa [String.Pos.Raw.unoffsetBy] using ih

theorem String.splitOn_dot (s : String) :
    s.splitOn "." = (s.toList.splitOn '.').map String.ofList := by
  rw [String.splitOn, if_neg (by decide), String.splitOnAux_dot]
  exact String.splitToList_of_valid s _

theorem String.splitOn_dot_ne_nil (s : String) : s.splitOn "." ≠ [] := by
  rw [String.splitOn_dot, ne_eq, List.map_eq_nil_iff]
  exact List.splitOnP_ne_nil _ _

namespace Json

/-! ## Field lists -/

theorem findField?_insertField (k k' : String) (v : Json) (fs : List (String × Json)) :
    findField? k (insertField k' v fs) = if k = k' then some v else findField? k fs := by
  induction fs with
  | nil => simp [insertField, findField?]
  | cons kv fs ih =>
    obtain ⟨k₀, v₀⟩ := kv
    unfold insertField
    by_cases hlt : k' < k₀
    · simp only [hlt, if_true, findField?]
    · by_cases heq : k' = k₀
      · subst heq
        by_cases hk : k = k' <;> simp [hk, findField?]
      · simp only [hlt, heq, if_false, findField?, ih]
        by_cases hk : k = k'
        · subst hk
          simp [heq]
        · simp [hk]

theorem insertField_ne_nil (k : String) (v : Json) (fs : List (String × Json)) :
    insertField k v fs ≠ [] := by
  cases fs with
  | nil => simp [insertField]
  | cons kv fs =>
    unfold insertField
    by_cases hlt : k < kv.1 <;> by_cases heq : k = kv.1 <;> simp [hlt, heq]

theorem isNull_iff (v : Json) : v.isNull = true ↔ v = .null := by
  cases v <;> simp [isNull]

/-! ## Keys -/

theorem getKeys?_cons_cons (fs : Fields) (k k' : String) (rest : List String) :
    getKeys? fs (k :: k' :: rest) =
      ((findField? k fs).bind getObj?).bind (getKeys? · (k' :: rest)) := by
  rw [getKeys?.eq_3 _ _ _ (List.cons_ne_nil _ _)]
  cases findField? k fs with
  | none => rfl
  | some j => cases j <;> rfl

theorem setKeys_cons_cons (fs : Fields) (v : Json) (k k' : String) (rest : List String) :
    setKeys fs v (k :: k' :: rest) =
      insertField k (.obj (setKeys (((findField? k fs).bind getObj?).getD []) v (k' :: rest))) fs := by
  rw [setKeys.eq_3 _ _ _ _ (List.cons_ne_nil _ _)]
  cases findField? k fs with
  | none => rfl
  | some j => cases j <;> rfl

theorem getKeys?_empty (ks : List String) : getKeys? [] ks = none := by
  match ks with
  | [] => rfl
  | [_] => rfl
  | _ :: _ :: _ => rfl

theorem getKeys?_congr {fs gs : Fields} {k : String} (h : findField? k fs = findField? k gs)
    (ks : List String) : getKeys? fs (k :: ks) = getKeys? gs (k :: ks) := by
  cases ks with
  | nil => exact h
  | cons k' rest => rw [getKeys?_cons_cons, getKeys?_cons_cons, h]

theorem findField?_setKeys_of_ne {k k' : String} (h : k' ≠ k) (fs : Fields) (v : Json)
    (ks : List String) : findField? k' (setKeys fs v (k :: ks)) = findField? k' fs := by
  cases ks with
  | nil => rw [setKeys, findField?_insertField, if_neg h]
  | cons _ _ => rw [setKeys_cons_cons, findField?_insertField, if_neg h]

theorem getKeys?_setKeys (v : Json) :
    ∀ (fs : Fields) (ks : List String), ks ≠ [] → getKeys? (setKeys fs v ks) ks = some v
  | _, [], h => absurd rfl h
  | fs, [k], _ => by
    rw [setKeys, getKeys?, findField?_insertField, if_pos rfl]
  | fs, k :: k' :: rest, _ => by
    rw [setKeys_cons_cons, getKeys?_cons_cons, findField?_insertField, if_pos rfl,
      Option.bind_some, getObj?, Option.bind_some]
    exact getKeys?_setKeys v _ (k' :: rest) (List.cons_ne_nil _ _)

theorem getKeys?_setKeys_of_not_prefix (v : Json) :
    ∀ (fs : Fields) (ps qs : List String), ¬ ps <+: qs → ¬ qs <+: ps →
      getKeys? (setKeys fs v ps) qs = getKeys? fs qs
  | _, [], _, hp, _ => absurd List.nil_prefix hp
  | _, _ :: _, [], _, hq => absurd List.nil_prefix hq
  | fs, k :: ps, k₂ :: qs, hp, hq => by
    by_cases hk : k₂ = k
    · subst hk
      rw [List.prefix_cons_inj] at hp hq
      match ps, qs, hp, hq with
      | [], _, hp, _ => exact absurd List.nil_prefix hp
      | _ :: _, [], _, hq => exact absurd List.nil_prefix hq
      | p :: ps, q :: qs, hp, hq =>
        rw [setKeys_cons_cons, getKeys?_cons_cons, getKeys?_cons_cons, findField?_insertField,
          if_pos rfl, Option.bind_some, getObj?, Option.bind_some,
          getKeys?_setKeys_of_not_prefix v _ (p :: ps) (q :: qs) hp hq]
        cases (findField? k₂ fs).bind getObj? with
        | none => exact getKeys?_empty _
        | some inner => rfl
    · exact getKeys?_congr (findField?_setKeys_of_ne hk fs v ps) qs

/-! ## Paths -/

theorem getPath?_setPath (fs : Fields) (p : String) (v : Json) :
    getPath? (setPath fs p v) p = some v :=
  getKeys?_setKeys v fs _ (String.splitOn_dot_ne_nil p)

/-- A write leaves alone every path that neither extends it nor is extended by it, segment by
segment. -/
theorem getPath?_setPath_of_not_prefix (fs : Fields) {p q : String} (v : Json)
    (hp : ¬ p.splitOn "." <+: q.splitOn ".") (hq : ¬ q.splitOn "." <+: p.splitOn ".") :
    getPath? (setPath fs p v) q = getPath? fs q :=
  getKeys?_setKeys_of_not_prefix v fs _ _ hp hq

end Json

/-! ## Columns -/

namespace Column

/-- A join column names the property of the related object that holds its key; a column of no
relation has nothing to name. -/
def namesReference (c : Column) : Bool := c.relation.isNone || c.referencedProperty.isSome

theorem getValue?_setValue {c : Column} (hc : c.namesReference = true) (entity : Fields)
    (v : Json) : c.getValue? (c.setValue entity v) = some v := by
  cases hrel : c.relation with
  | none =>
    rw [getValue?, setValue, hrel]
    exact Json.getPath?_setPath entity c.propertyPath v
  | some rel =>
    obtain ⟨r, hr⟩ : ∃ r, c.referencedProperty = some r := by
      simpa [namesReference, hrel, Option.isSome_iff_exists] using hc
    have hwrite : ∃ j, c.setValue entity v = Json.insertField rel j entity ∧
        ((∃ related, j = .obj (Json.setPath related r v)) ∨ (v = .null ∧ j = .null)) := by
      simp only [setValue, hrel, hr, Option.getD_some]
      split
      · exact ⟨_, rfl, .inl ⟨_, rfl⟩⟩
      · split
        · exact ⟨_, rfl, .inr ⟨(Json.isNull_iff v).1 ‹_›, rfl⟩⟩
        · exact ⟨_, rfl, .inl ⟨[], rfl⟩⟩
    obtain ⟨j, hset, hj⟩ := hwrite
    simp only [hset, getValue?, hrel, Json.findField?_insertField]
    rcases hj with ⟨related, rfl⟩ | ⟨rfl, rfl⟩
    · rw [hr]
      exact Json.getPath?_setPath related r v
    · rfl

theorem getValue?_setValue_of_not_namesReference {c : Column} (hc : c.namesReference = false) :
    c.getValue? (c.setValue [] (.int 0)) = none := by
  have h : c.relation.isSome = true ∧ c.referencedProperty = none := by
    simpa [namesReference] using hc
  obtain ⟨rel, hrel⟩ := Option.isSome_iff_exists.1 h.1
  have hr := h.2
  simp [getValue?, setValue, hrel, hr, Json.isNull, Json.findField?_insertField]

/-- Reads see writes, for every entity object and value, exactly for the columns that name their
reference. -/
theorem setValue_readBack_iff (c : Column) :
    (∀ (entity : Fields) (v : Json), c.getValue? (c.setValue entity v) = some v) ↔
      c.namesReference = true := by
  constructor
  · intro h
    cases hc : c.namesReference with
    | true => rfl
    | false => simpa [getValue?_setValue_of_not_namesReference hc] using h [] (.int 0)
  · intro hc entity v
    exact getValue?_setValue hc entity v

end Column

/-! ## Declared entities -/

namespace Entity

/-- The entities the builder declares: `Entity.declare`, then any of the builder's calls. The
shorthands are among these calls: `column`, `primary`, `version` and the other column
declarations add a column made by `Column.new`, which belongs to no relation; `manyToOne`,
`manyToOneWith` and `oneToOneOwner` are `toOneOwner`; `oneToMany`, `oneToOneInverse` and
`manyToManyInverse` are `inverseOf`. -/
inductive Declared : Entity → Prop
  | declare (name table : String) : Declared (declare name table)
  | inSchema {e : Entity} (s : String) : Declared e → Declared (e.inSchema s)
  | addColumn {e : Entity} {c : Column} : Declared e → c.relation = none → Declared (e.addColumn c)
  | discriminator {e : Entity} (path rootValue : String) :
      Declared e → Declared (e.discriminator path rootValue)
  | extends_ {e : Entity} (parent value : String) : Declared e → Declared (e.extends_ parent value)
  | toOneOwner {e : Entity} (kind : RelationKind) (property target : String)
      (keys : List (String × String)) (inverse : Option String) :
      Declared e → Declared (e.toOneOwner kind property target keys inverse)
  | inverseOf {e : Entity} (kind : RelationKind) (property target inverse : String) :
      Declared e → Declared (e.inverseOf kind property target inverse)
  | manyToMany {e : Entity} (property target table ownerColumn inverseColumn : String)
      (inverse : Option String) :
      Declared e → Declared (e.manyToMany property target table ownerColumn inverseColumn inverse)

theorem forall_columns_addColumn {P : Column → Prop} {e : Entity} {c : Column}
    (he : ∀ c' ∈ e.columns, P c') (hc : P c) : ∀ c' ∈ (e.addColumn c).columns, P c' := by
  intro c' hc'
  rcases List.mem_append.1 hc' with h | h
  · exact he c' h
  · rw [List.mem_singleton.1 h]
    exact hc

theorem toOneOwner_namesReference {e : Entity} (he : ∀ c ∈ e.columns, c.namesReference = true)
    (kind : RelationKind) (property target : String) (keys : List (String × String))
    (inverse : Option String) :
    ∀ c ∈ (e.toOneOwner kind property target keys inverse).columns, c.namesReference = true := by
  show ∀ c ∈ (keys.foldl _ e).columns, _
  induction keys generalizing e with
  | nil => exact he
  | cons key keys ih =>
    obtain ⟨col, referenced⟩ := key
    exact ih (forall_columns_addColumn he rfl)

theorem Declared.namesReference {e : Entity} (h : e.Declared) :
    ∀ c ∈ e.columns, c.namesReference = true := by
  induction h with
  | declare => simp [Entity.declare]
  | inSchema _ _ ih => exact ih
  | addColumn _ hc ih => exact forall_columns_addColumn ih (by simp [Column.namesReference, hc])
  | discriminator _ _ _ ih => exact forall_columns_addColumn ih rfl
  | extends_ _ _ _ ih => exact ih
  | toOneOwner kind property target keys inverse _ ih =>
    exact toOneOwner_namesReference ih kind property target keys inverse
  | inverseOf _ _ _ _ _ ih => exact ih
  | manyToMany _ _ _ _ _ _ _ ih => exact ih

end Entity

/-- Reads see writes. Reading a dotted path just written gives the value written; a write leaves
alone every path that is no segment-wise prefix of it and has none of it as a prefix; and every
column of an entity the builder declares reads back what it wrote into any entity object. -/
theorem paths_read_back_writes :
    (∀ (o : Fields) (p : String) (v : Json), Json.getPath? (Json.setPath o p v) p = some v) ∧
    (∀ (o : Fields) (p q : String) (v : Json), ¬ p.splitOn "." <+: q.splitOn "." →
      ¬ q.splitOn "." <+: p.splitOn "." → Json.getPath? (Json.setPath o p v) q = Json.getPath? o q) ∧
    (∀ e : Entity, e.Declared → ∀ c ∈ e.columns, ∀ (entity : Fields) (v : Json),
      c.getValue? (c.setValue entity v) = some v) :=
  ⟨Json.getPath?_setPath,
    fun o _ _ v hp hq => Json.getPath?_setPath_of_not_prefix o v hp hq,
    fun _ he c hc => Column.getValue?_setValue (he.namesReference c hc)⟩

def authoredPosts : Entity := (Entity.declare "Post" "posts").manyToOne "author" "User" "authorId"

def authorKey : Column :=
  { (Column.new "author" .integer).named "authorId" |>.nullable with
    relation := some "author", referencedProperty := some "id" }

/-- A write to `profile.bio` keeps `profile.name`, here missing under a bare number that the
write replaces by an object; an author written into a post that held a bare id reads back. -/
theorem paths_read_back_writes_posts :
    (¬ "profile.bio".splitOn "." <+: "profile.name".splitOn "." ∧
      ¬ "profile.name".splitOn "." <+: "profile.bio".splitOn "." ∧
      Json.getPath? (Json.setPath [("profile", .int 3)] "profile.bio" (.str "x")) "profile.name" =
        Json.getPath? [("profile", .int 3)] "profile.name") ∧
    (authoredPosts.Declared ∧ authorKey ∈ authoredPosts.columns ∧
      authorKey.getValue? (authorKey.setValue [("author", .int 3)] (.int 7)) = some (.int 7)) := by
  have hp : ¬ "profile.bio".splitOn "." <+: "profile.name".splitOn "." := by
    simp only [String.splitOn_dot]
    decide +kernel
  have hq : ¬ "profile.name".splitOn "." <+: "profile.bio".splitOn "." := by
    simp only [String.splitOn_dot]
    decide +kernel
  have hdeclared : authoredPosts.Declared := .toOneOwner _ _ _ _ _ (.declare _ _)
  have hmem : authorKey ∈ authoredPosts.columns := List.mem_singleton.2 rfl
  exact ⟨⟨hp, hq, paths_read_back_writes.2.1 _ _ _ _ hp hq⟩,
    ⟨hdeclared, hmem, paths_read_back_writes.2.2 _ hdeclared _ hmem _ _⟩⟩

end EntitySql
