import EntitySql.Proofs.Query.RewriteKeepsParameters
import EntitySql.Proofs.Query.Paging

/-!
# Operator templates

A raw operator is written from a template with holes: `{i}` for its `i`-th value and `{col}` for
the compared column. Binding the operator replaces each `{i}` by a reference to the parameter
made up for the value (`fillTemplate`); writing it replaces `{col}` by the column. Each
replacement is one pass of `Text.replaceAll` over the whole text, so a hole written inside a
quoted run or against a name is filled there as well.

A template is read as a list of parts, texts and holes. When its texts hold no opening brace,
replacing the pattern of a hole fills exactly the holes it names (`Template.replaceAll_source`),
so the bound and written operator is the parts with every hole filled (`Template.written`). When
moreover each text is clean and meets each hole at a separating character, the written operator
refers to the names of its texts and to those of its values only (`Template.refsWithin_fill`).
-/

namespace EntitySql

namespace Text

variable {pat rep : List Char} {h : pat ≠ []}

theorem replaceList_cons (c : Char) (rest : List Char) :
    replaceList pat rep h (c :: rest) =
      if pat.isPrefixOf (c :: rest) then
        rep ++ replaceList pat rep h ((c :: rest).drop pat.length)
      else c :: replaceList pat rep h rest := by
  rw [replaceList]

theorem replaceList_append_of_not_mem {c : Char} (hc : pat.head? = some c) {s : List Char}
    (hs : c ∉ s) (t : List Char) : replaceList pat rep h (s ++ t) = s ++ replaceList pat rep h t := by
  obtain ⟨p, rfl⟩ : ∃ p, pat = c :: p := by
    cases pat with
    | nil => cases hc
    | cons x p => exact ⟨p, by simpa using hc⟩
  induction s with
  | nil => rfl
  | cons x s ih =>
    simp only [List.mem_cons, not_or] at hs
    obtain ⟨hcx, hs⟩ := hs
    have hx : (c :: p).isPrefixOf (x :: (s ++ t)) = false := by
      simp [List.isPrefixOf, hcx]
    rw [List.cons_append, replaceList_cons, hx, if_neg Bool.false_ne_true, ih hs, List.cons_append]

theorem replaceList_pattern_append (t : List Char) :
    replaceList pat rep h (pat ++ t) = rep ++ replaceList pat rep h t := by
  obtain ⟨c, p, rfl⟩ := List.exists_cons_of_ne_nil h
  have hpre : (c :: p).isPrefixOf (c :: (p ++ t)) = true := by
    rw [List.isPrefixOf_iff_prefix, ← List.cons_append]
    exact List.prefix_append _ _
  rw [List.cons_append, replaceList_cons, if_pos hpre, ← List.cons_append,
    List.drop_left]

theorem replaceAll_eq {s p r : String} (hp : p.toList ≠ []) :
    replaceAll s p r = String.ofList (replaceList p.toList r.toList hp s.toList) := by
  unfold replaceAll
  rw [dif_neg hp]

end Text

/-- A hole of an operator template: a value by its position, or the column. -/
inductive Hole where
  | value (i : Nat)
  | column
  deriving DecidableEq

namespace Hole

def key : Hole → String
  | .value i => toString i
  | .column => "col"

def pattern (h : Hole) : String := "\x7b" ++ h.key ++ "\x7d"

theorem key_numbers (i : Nat) : (value i).key.toList.all numberChar = true := by
  simpa [key, Nat.toString_eq_repr, Nat.toList_repr] using all_numberChar_digits i

theorem brace_not_mem_key (h : Hole) : '\x7b' ∉ h.key.toList ∧ '\x7d' ∉ h.key.toList := by
  cases h with
  | column => decide
  | value i =>
    have hall := List.all_eq_true.1 (key_numbers i)
    exact ⟨fun hm => absurd (hall _ hm) (by decide), fun hm => absurd (hall _ hm) (by decide)⟩

theorem key_injective : Function.Injective key := by
  intro a b hab
  cases a with
  | value i =>
    cases b with
    | value j =>
      simp only [key, Nat.toString_eq_repr] at hab
      exact congrArg value (Nat.repr_inj.mp hab)
    | column =>
      have hc := List.all_eq_true.1 (key_numbers i) 'c' (by rw [hab]; decide)
      exact absurd hc (by decide)
  | column =>
    cases b with
    | value j =>
      have hc := List.all_eq_true.1 (key_numbers j) 'c' (by rw [← hab]; decide)
      exact absurd hc (by decide)
    | column => rfl

theorem pattern_toList (h : Hole) : h.pattern.toList = '\x7b' :: (h.key.toList ++ ['\x7d']) := by
  simp [pattern]

theorem eq_of_closed_start :
    ∀ {a b : List Char} (rest : List Char), '\x7d' ∉ a → '\x7d' ∉ b →
      (a ++ ['\x7d']) <+: (b ++ '\x7d' :: rest) → a = b
  | [], [], _, _, _, _ => rfl
  | [], c :: b, _, _, hb, hp => by
    obtain ⟨hc, -⟩ := List.cons_prefix_cons.1 hp
    exact (hb (hc ▸ List.mem_cons_self)).elim
  | c :: a, [], _, ha, _, hp => by
    obtain ⟨hca, -⟩ := List.cons_prefix_cons.1 hp
    exact absurd (hca ▸ List.mem_cons_self) ha
  | x :: a, y :: b, rest, ha, hb, hp => by
    obtain ⟨hxy, hp⟩ := List.cons_prefix_cons.1 hp
    rw [hxy, eq_of_closed_start rest (fun h => ha (List.mem_cons_of_mem x h))
      (fun h => hb (List.mem_cons_of_mem y h)) hp]

theorem not_isPrefixOf_pattern {h h' : Hole} (hne : h' ≠ h) (rest : List Char) :
    h.pattern.toList.isPrefixOf (h'.pattern.toList ++ rest) = false := by
  rw [Bool.eq_false_iff]
  intro hp
  rw [List.isPrefixOf_iff_prefix, pattern_toList, pattern_toList, List.cons_append,
    List.cons_prefix_cons, List.append_assoc, List.singleton_append] at hp
  exact hne (key_injective (String.toList_injective
    (eq_of_closed_start rest (brace_not_mem_key h).2 (brace_not_mem_key h').2 hp.2)).symm)

end Hole

/-- A part of an operator template. -/
inductive TemplatePart where
  | text (s : String)
  | hole (h : Hole)
  deriving DecidableEq

namespace TemplatePart

def source : TemplatePart → String
  | .text s => s
  | .hole h => h.pattern

def put (hole : Hole) (r : String) : TemplatePart → TemplatePart
  | .hole h => if h = hole then .text r else .hole h
  | p => p

/-- The part with each value hole filled by a reference to the name a list gives its position. -/
def bindValues (names : List (Nat × String)) : TemplatePart → TemplatePart
  | .hole (.value i) =>
    match names.lookup i with
    | some n => .text (":" ++ n)
    | none => .hole (.value i)
  | p => p

/-- The part as the operator is written: values by references, the column by its text. -/
def fill (names : List (Nat × String)) (col : String) : TemplatePart → String
  | .text s => s
  | .hole (.value i) => ((names.lookup i).map (":" ++ ·)).getD (Hole.value i).pattern
  | .hole .column => col

end TemplatePart

namespace Template

open TemplatePart

def source (parts : List TemplatePart) : String := String.join (parts.map TemplatePart.source)

def NoBrace (parts : List TemplatePart) : Prop := ∀ s, .text s ∈ parts → '\x7b' ∉ s.toList

theorem source_cons (p : TemplatePart) (parts : List TemplatePart) :
    (source (p :: parts)).toList = p.source.toList ++ (source parts).toList := by
  simp [source]

theorem replaceList_part (hole : Hole) (r : String) (hne : hole.pattern.toList ≠ [])
    {p : TemplatePart} (hp : ∀ s, p = .text s → '\x7b' ∉ s.toList) (rest : List Char) :
    Text.replaceList hole.pattern.toList r.toList hne (p.source.toList ++ rest) =
      (p.put hole r).source.toList ++ Text.replaceList hole.pattern.toList r.toList hne rest := by
  have hhead : hole.pattern.toList.head? = some '\x7b' := by rw [Hole.pattern_toList]; rfl
  cases p with
  | text s => exact Text.replaceList_append_of_not_mem hhead (hp s rfl) rest
  | hole h =>
    by_cases hh : h = hole
    · subst hh
      simp only [TemplatePart.source, put, if_true]
      exact Text.replaceList_pattern_append rest
    · -- another hole: its brace is copied, then its key and closing brace
      simp only [TemplatePart.source, put, hh, if_false]
      have hnp := Hole.not_isPrefixOf_pattern hh rest
      rw [Hole.pattern_toList h, List.cons_append] at hnp ⊢
      rw [Text.replaceList_cons, if_neg (Bool.eq_false_iff.mp hnp), List.append_assoc,
        Text.replaceList_append_of_not_mem hhead (Hole.brace_not_mem_key h).1,
        Text.replaceList_append_of_not_mem hhead (by decide)]
      simp

theorem replaceList_source (hole : Hole) (r : String) (hne : hole.pattern.toList ≠ []) :
    ∀ {parts : List TemplatePart}, NoBrace parts →
      Text.replaceList hole.pattern.toList r.toList hne (source parts).toList =
        (source (parts.map (put hole r))).toList
  | [], _ => by simp [source, Text.replaceList]
  | p :: parts, hnb => by
    rw [List.map_cons, source_cons, source_cons,
      replaceList_part hole r hne (fun s hs => hnb s (hs ▸ List.mem_cons_self)),
      replaceList_source hole r hne fun s hs => hnb s (List.mem_cons_of_mem p hs)]

/-- Replacing the pattern of a hole in a template whose texts hold no opening brace fills that
hole wherever it stands and leaves the rest. -/
theorem replaceAll_source (hole : Hole) (r : String) {parts : List TemplatePart}
    (hnb : NoBrace parts) :
    Text.replaceAll (source parts) hole.pattern r = source (parts.map (put hole r)) := by
  have hne : hole.pattern.toList ≠ [] := by simp [Hole.pattern]
  rw [Text.replaceAll_eq hne, replaceList_source hole r hne hnb, String.ofList_toList]

theorem NoBrace.map {parts : List TemplatePart} (h : NoBrace parts) {f : TemplatePart → TemplatePart}
    (hf : ∀ p s, f p = .text s → (p = .text s ∨ '\x7b' ∉ s.toList)) : NoBrace (parts.map f) := by
  intro s hs
  obtain ⟨p, hp, hps⟩ := List.mem_map.1 hs
  rcases hf p s hps with rfl | hs'
  · exact h s hp
  · exact hs'

theorem put_text {hole : Hole} {r : String} (hr : '\x7b' ∉ r.toList) (p : TemplatePart) (s : String)
    (h : p.put hole r = .text s) : p = .text s ∨ '\x7b' ∉ s.toList := by
  cases p with
  | text t => exact .inl h
  | hole h' =>
    simp only [put] at h
    split_ifs at h
    cases h
    exact .inr hr

theorem bindValues_put (i : Nat) (n : String) (L : List (Nat × String)) (p : TemplatePart) :
    (p.put (.value i) (":" ++ n)).bindValues L = p.bindValues ((i, n) :: L) := by
  cases p with
  | text s => rfl
  | hole h =>
    cases h with
    | column => rfl
    | value j =>
      by_cases hj : j = i
      · subst hj
        simp [put, bindValues]
      · have hne : (j == i) = false := by simpa using hj
        simp [put, bindValues, hj, List.lookup_cons, hne]

theorem mem_of_lookup {L : List (Nat × String)} {i : Nat} {n : String} (h : L.lookup i = some n) :
    (i, n) ∈ L := by
  induction L with
  | nil => cases h
  | cons p L ih =>
    obtain ⟨j, m⟩ := p
    by_cases hij : i = j
    · subst hij
      simp only [List.lookup_cons, beq_self_eq_true, Option.some.injEq] at h
      rw [h]
      exact List.mem_cons_self
    · have hne : (i == j) = false := by simpa using hij
      simp only [List.lookup_cons, hne] at h
      exact List.mem_cons_of_mem _ (ih h)

theorem fillTemplate_source : ∀ (L : List (Nat × String)) {parts : List TemplatePart},
    NoBrace parts → (∀ p ∈ L, '\x7b' ∉ p.2.toList) →
      fillTemplate (source parts) L = source (parts.map (bindValues L))
  | [], parts, _, _ => by
    have hid : ∀ p : TemplatePart, p.bindValues [] = p := by
      intro p
      cases p with
      | text s => rfl
      | hole h => cases h <;> rfl
    rw [fillTemplate, (List.map_congr_left fun p _ => hid p).trans (List.map_id parts)]
  | (i, n) :: L, parts, hnb, hL => by
    have hn : '\x7b' ∉ (":" ++ n).toList := by
      simpa using hL (i, n) List.mem_cons_self
    have hstep : Text.replaceAll (source parts) ("\x7b" ++ toString i ++ "\x7d") (":" ++ n) =
        source (parts.map (put (.value i) (":" ++ n))) :=
      replaceAll_source (.value i) (":" ++ n) hnb
    rw [fillTemplate, hstep, fillTemplate_source L (hnb.map (put_text hn))
      fun p hp => hL p (List.mem_cons_of_mem _ hp), List.map_map]
    congr 2
    funext p
    exact bindValues_put i n L p

theorem source_put_bindValues (L : List (Nat × String)) (col : String) (p : TemplatePart) :
    ((p.bindValues L).put .column col).source = p.fill L col := by
  cases p with
  | text s => rfl
  | hole h =>
    cases h with
    | column => simp [bindValues, put, TemplatePart.source, fill]
    | value i =>
      cases hl : L.lookup i <;> simp [bindValues, put, TemplatePart.source, fill, hl]

/-- A raw operator bound to names and written on a column is its template with every part
filled. -/
theorem written {parts : List TemplatePart} (hnb : NoBrace parts) (L : List (Nat × String))
    (hL : ∀ p ∈ L, '\x7b' ∉ p.2.toList) (col : String) :
    Text.replaceAll (fillTemplate (source parts) L) "\x7bcol\x7d" col =
      String.join (parts.map (fill L col)) := by
  have hpat : Hole.column.pattern = "\x7bcol\x7d" := rfl
  have hbound : NoBrace (parts.map (bindValues L)) := by
    refine hnb.map fun p s hps => ?_
    cases p with
    | text t => exact .inl hps
    | hole h =>
      cases h with
      | column => cases hps
      | value i =>
        simp only [bindValues] at hps
        split at hps
        · rename_i n hn
          cases hps
          exact .inr (by simpa using hL (i, n) (mem_of_lookup hn))
        · cases hps
  rw [fillTemplate_source L hnb hL, ← hpat, replaceAll_source .column col hbound, source,
    List.map_map, List.map_map]
  exact congrArg String.join (List.map_congr_left fun p _ => source_put_bindValues L col p)

section Reading

open Placeholder

variable {d : Dialect} {N : String → Prop}

/-- Where two parts of a template meet: a text and a hole, the text's character next to the hole
separating. -/
def Meets (d : Dialect) : TemplatePart → TemplatePart → Prop
  | .text s, .hole _ => ∃ c ∈ s.toList.getLast?, isSep d c = true
  | .hole _, .text s => ∃ c ∈ s.toList.head?, isSep d c = true
  | _, _ => False

/-- A template whose texts are clean within `N` and hold no opening brace, whose texts and holes
alternate and meet at separating characters, and whose values are among the first `k`. -/
structure Fits (d : Dialect) (N : String → Prop) (k : Nat) (parts : List TemplatePart) : Prop where
  texts : ∀ s, .text s ∈ parts → Clean d N s.toList ∧ '\x7b' ∉ s.toList
  values : ∀ i, .hole (.value i) ∈ parts → i < k
  meets : parts.IsChain (Meets d)

theorem Fits.noBrace {k : Nat} {parts : List TemplatePart} (h : Fits d N k parts) :
    NoBrace parts := fun s hs => (h.texts s hs).2

theorem Fits.tail {k : Nat} {p : TemplatePart} {parts : List TemplatePart}
    (h : Fits d N (k := k) (p :: parts)) : Fits d N k parts where
  texts s hs := h.texts s (List.mem_cons_of_mem p hs)
  values i hi := h.values i (List.mem_cons_of_mem p hi)
  meets := h.meets.tail

theorem Fits.mono {k : Nat} {parts : List TemplatePart} (h : Fits d N k parts) {M : String → Prop}
    (hM : ∀ n, N n → M n) : Fits d M k parts where
  texts s hs := ⟨(h.texts s hs).1.mono hM, (h.texts s hs).2⟩
  values := h.values
  meets := h.meets

variable {k : Nat} {L : List (Nat × String)} {col : String}

theorem refsWithin_part (hL : ∀ i < k, ∃ n, L.lookup i = some n ∧ N n ∧ Sql.isName n.toList = true)
    (hcol : RefsWithin d (Sep d) N col.toList) {parts : List TemplatePart} (hf : Fits d N k parts)
    {p : TemplatePart} (hp : p ∈ parts) : RefsWithin d (Sep d) N (p.fill L col).toList := by
  cases p with
  | text s => exact (hf.texts s hp).1.refsWithin
  | hole h =>
    cases h with
    | column => exact hcol
    | value i =>
      obtain ⟨n, hn, hN, hname⟩ := hL i (hf.values i hp)
      have href := refsWithin_ref (d := d) (F := Sep d) hname hN fun rest hrest c hc =>
        ⟨(hrest.stops c hc).1, (hrest.stops c hc).2.1⟩
      simpa [fill, hn] using href

/-- A template that fits, filled, is read in place before a separating character, and refers to
the names of its texts and of its values only. -/
theorem refsWithin_fill (hL : ∀ i < k, ∃ n, L.lookup i = some n ∧ N n ∧ Sql.isName n.toList = true)
    (hcol : RefsWithin d (Sep d) N col.toList) :
    ∀ {parts : List TemplatePart}, Fits d N k parts →
      RefsWithin d (Sep d) N ((parts.map (fill L col)).flatMap String.toList)
  | [], _ => refsWithin_nil
  | [p], hf => by
    simpa using refsWithin_part hL hcol hf List.mem_cons_self
  | p :: q :: rest, hf => by
    have hrest := refsWithin_fill hL hcol hf.tail
    have hmeet : Meets d p q := (List.isChain_cons_cons.1 hf.meets).1
    rw [List.map_cons, List.flatMap_cons]
    cases p with
    | text s =>
      cases q with
      | text t => exact hmeet.elim
      | hole h =>
        exact ((hf.texts s List.mem_cons_self).1.refsWithin_of_getLast
          fun x hx => by obtain ⟨c, hc, hsep⟩ := hmeet; cases Option.mem_unique hx hc; exact hsep).append
          hrest fun _ _ => trivial
    | hole h =>
      cases q with
      | hole h' => exact hmeet.elim
      | text t =>
        refine (refsWithin_part hL hcol hf List.mem_cons_self).append hrest fun more _ => ?_
        rw [List.map_cons, List.flatMap_cons, List.append_assoc]
        exact sep_append hmeet _

end Reading

end Template

end EntitySql
