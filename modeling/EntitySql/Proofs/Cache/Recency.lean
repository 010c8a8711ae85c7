import Mathlib
import EntitySql.Cache.Memory

/-!
# The result cache keeps its keys in order of last use

The cache is kept in two parts, a hash map of entries and a queue of keys. `WellFormed` is the
invariant that ties them: the map has an entry for exactly the keys of the queue, and the queue
holds each key once. Every operation keeps it, and so every run of operations from an empty
cache does.

The order of the queue is the order of last use. A key is used by a lookup that finds it and
by a store (`uses`); `lastUse h k` tells when a key was last used in a history `h`. In every
run the queue is strictly increasing in the last use of its keys, so the keys an eviction takes
from its front are those used longest ago.

Main statement (`run_keeps_recency_order`): along every run of lookups, stores, removals and
clears from an empty cache, the two parts agree, the queue is in order of last use, hits and
misses together count the lookups, and the next store keeps within the capacity, forgets the
key of a previous entry that differs from its own, keeps exactly the keys of which fewer than
`capacity` others were used more recently, and counts each key it pushes out as one eviction.
-/

namespace EntitySql

namespace ResultCache

/-- The two parts agree: the map has an entry for exactly the keys of the queue, and the queue
holds each key once. -/
structure WellFormed (c : ResultCache) : Prop where
  mem_iff : ∀ k, k ∈ c.map ↔ k ∈ c.order
  nodup : c.order.Nodup

/-! ### The size of the map -/

theorem size_eq_length {map : Std.HashMap String CacheEntry} {order : List String}
    (hmem : ∀ k, k ∈ map ↔ k ∈ order) (hnd : order.Nodup) : map.size = order.length := by
  have hperm : map.keys.Perm order :=
    (List.perm_ext_iff_of_nodup map.nodup_keys hnd).2 fun k => by
      rw [Std.HashMap.mem_keys, hmem]
  rw [← Std.HashMap.length_keys, hperm.length_eq]

theorem WellFormed.size_eq {c : ResultCache} (h : c.WellFormed) : c.map.size = c.order.length :=
  size_eq_length h.mem_iff h.nodup

theorem new_wellFormed (capacity : Nat) : (new capacity).WellFormed where
  mem_iff k := by simp [new]
  nodup := List.nodup_nil

/-! ### Eviction -/

theorem evictLoop_eq (capacity : Nat) {map : Std.HashMap String CacheEntry} {order : List String}
    (hmem : ∀ k, k ∈ map ↔ k ∈ order) (hnd : order.Nodup) (n : Nat) :
    evictLoop capacity map order n =
      ((order.take (order.length - capacity)).foldl (·.erase ·) map,
        order.drop (order.length - capacity), n + (order.length - capacity)) := by
  induction order generalizing map n with
  | nil => simp [evictLoop]
  | cons k rest ih =>
    have hsize := size_eq_length hmem hnd
    have hk : k ∉ rest := (List.nodup_cons.1 hnd).1
    rw [evictLoop]
    by_cases hover : map.size > capacity
    · -- the oldest key has an entry, so it is erased and counted
      have hin : k ∈ map := (hmem k).2 List.mem_cons_self
      have hmem' : ∀ x, x ∈ map.erase k ↔ x ∈ rest := fun x => by
        rw [Std.HashMap.mem_erase, hmem, List.mem_cons]
        by_cases hx : x = k
        · subst hx; simp [hk]
        · simp [hx, Ne.symm hx]
      have hlen : (k :: rest).length - capacity = rest.length - capacity + 1 := by
        simp only [List.length_cons] at hsize ⊢; omega
      rw [if_pos hover, if_pos hin, ih hmem' (List.nodup_cons.1 hnd).2, hlen]
      simp [Nat.add_assoc, Nat.add_comm 1]
    · have hzero : (k :: rest).length - capacity = 0 := by omega
      rw [if_neg hover, hzero]
      simp

theorem mem_foldl_erase {map : Std.HashMap String CacheEntry} {ks : List String} {x : String} :
    x ∈ ks.foldl (·.erase ·) map ↔ x ∉ ks ∧ x ∈ map := by
  induction ks generalizing map with
  | nil => simp
  | cons k ks ih =>
    rw [List.foldl_cons, ih, Std.HashMap.mem_erase]
    by_cases hx : x = k
    · subst hx; simp
    · simp [hx, Ne.symm hx]

/-- Eviction from a cache whose parts agree: the queue loses the keys beyond the capacity from
its front, the map their entries, and each counts as one eviction. -/
theorem WellFormed.evict {c : ResultCache} (h : c.WellFormed) :
    let e := c.order.length - c.capacity
    (c.evict).order = c.order.drop e ∧ (c.evict).evictions = c.evictions + e ∧
      (∀ x, x ∈ (c.evict).map ↔ x ∈ c.order.drop e) ∧
      (c.evict).hits = c.hits ∧ (c.evict).misses = c.misses ∧ (c.evict).capacity = c.capacity := by
  intro e
  have hloop := evictLoop_eq c.capacity h.mem_iff h.nodup 0
  simp only [ResultCache.evict, hloop, Nat.zero_add, and_true]
  refine ⟨rfl, rfl, fun x => ?_⟩
  rw [mem_foldl_erase, h.mem_iff]
  constructor
  · rintro ⟨hx, hmem⟩
    rw [← List.take_append_drop e c.order, List.mem_append] at hmem
    exact hmem.resolve_left hx
  · intro hx
    refine ⟨fun hx' => ?_, List.mem_of_mem_drop hx⟩
    have hnd := h.nodup
    rw [← List.take_append_drop e c.order] at hnd
    exact List.disjoint_of_nodup_append hnd hx' hx

theorem WellFormed.evict_wellFormed {c : ResultCache} (h : c.WellFormed) :
    (c.evict).WellFormed := by
  obtain ⟨horder, -, hmem, -⟩ := h.evict
  exact ⟨fun x => by rw [hmem, horder], horder ▸ h.nodup.sublist (List.drop_sublist _ _)⟩

/-! ### The other operations -/

section Steps

variable {c : ResultCache}

theorem touch_eq (c : ResultCache) (key : String) :
    c.touch key =
      { c with order := if key ∈ c.order then c.order.erase key ++ [key] else c.order } := by
  unfold touch
  split <;> rfl

theorem removeKey_eq (c : ResultCache) (key : String) :
    c.removeKey key =
      { c with map := if key ∈ c.map then c.map.erase key else c.map,
               order := if key ∈ c.map then c.order.erase key else c.order } := by
  unfold removeKey
  split <;> rfl

theorem nodup_moveBack {order : List String} (hnd : order.Nodup) (key : String) :
    (order.erase key ++ [key]).Nodup := by
  refine List.nodup_append.2 ⟨hnd.erase key, List.nodup_singleton key, ?_⟩
  intro a ha b hb
  rw [List.mem_singleton] at hb
  subst hb
  exact fun hab => hnd.not_mem_erase (hab ▸ ha)

theorem mem_moveBack {order : List String} (hnd : order.Nodup) (key x : String) :
    x ∈ order.erase key ++ [key] ↔ x ∈ order ∨ x = key := by
  rw [List.mem_append, hnd.mem_erase_iff, List.mem_singleton]
  by_cases hx : x = key <;> simp [hx]

theorem WellFormed.removeKey (h : c.WellFormed) (key : String) :
    (c.removeKey key).WellFormed ∧ (c.removeKey key).order = c.order.erase key := by
  have horder : (c.removeKey key).order = c.order.erase key := by
    rw [removeKey_eq]
    split
    · rfl
    · exact (List.erase_of_not_mem fun hk => ‹key ∉ c.map› ((h.mem_iff key).2 hk)).symm
  refine ⟨⟨fun x => ?_, horder ▸ h.nodup.erase key⟩, horder⟩
  rw [horder, h.nodup.mem_erase_iff, removeKey_eq]
  split
  · rw [Std.HashMap.mem_erase, h.mem_iff, beq_eq_false_iff_ne, ne_comm]
  · rw [h.mem_iff]
    exact ⟨fun hx => ⟨fun hxk => ‹key ∉ c.map› ((h.mem_iff key).2 (hxk ▸ hx)), hx⟩, And.right⟩

theorem WellFormed.forgetPrevious (h : c.WellFormed) (key : String)
    (previous : Option CacheEntry) :
    (c.forgetPrevious key previous).WellFormed ∧
      List.Sublist (c.forgetPrevious key previous).order c.order ∧
      ∀ x, x ∈ (c.forgetPrevious key previous).order ↔
        x ∈ c.order ∧ previous.all fun p => p.identifier = key ∨ p.identifier ≠ x := by
  cases previous with
  | none => exact ⟨h, List.Sublist.refl _, fun x => by simp [ResultCache.forgetPrevious]⟩
  | some p =>
    by_cases hp : p.identifier = key
    · simp only [ResultCache.forgetPrevious, hp, ne_eq, not_true_eq_false, if_false]
      exact ⟨h, List.Sublist.refl _, fun x => by simp [hp]⟩
    · obtain ⟨hwf, horder⟩ := h.removeKey p.identifier
      simp only [ResultCache.forgetPrevious, hp, ne_eq, not_false_eq_true, if_true, horder]
      refine ⟨hwf, List.erase_sublist, fun x => ?_⟩
      rw [h.nodup.mem_erase_iff]
      simp [hp, ne_comm, and_comm]

theorem forgetPrevious_counters (c : ResultCache) (key : String) (previous : Option CacheEntry) :
    (c.forgetPrevious key previous).capacity = c.capacity ∧
      (c.forgetPrevious key previous).hits = c.hits ∧
      (c.forgetPrevious key previous).misses = c.misses ∧
      (c.forgetPrevious key previous).evictions = c.evictions := by
  cases previous with
  | none => exact ⟨rfl, rfl, rfl, rfl⟩
  | some p => by_cases hp : p.identifier = key <;> simp [forgetPrevious, hp, removeKey_eq]

theorem WellFormed.insert_eq (h : c.WellFormed) (e : CacheEntry) :
    c.insert e = { c with map := c.map.insert e.identifier e,
                          order := c.order.erase e.identifier ++ [e.identifier] } := by
  unfold insert
  split
  · rw [touch_eq, if_pos ((h.mem_iff _).1 ‹_›)]
  · rw [List.erase_of_not_mem fun hk => ‹e.identifier ∉ c.map› ((h.mem_iff _).2 hk)]

theorem WellFormed.insert (h : c.WellFormed) (e : CacheEntry) : (c.insert e).WellFormed := by
  rw [h.insert_eq]
  refine ⟨fun x => ?_, nodup_moveBack h.nodup _⟩
  rw [Std.HashMap.mem_insert, mem_moveBack h.nodup, h.mem_iff, beq_iff_eq, eq_comm, or_comm]

/-- The queue a store leaves before it evicts: the keys of the cache less the key of a previous
entry that differs from the stored one, with the stored key at the back. -/
def storedQueue (c : ResultCache) (key : String) (previous : Option CacheEntry) : List String :=
  (c.forgetPrevious key previous).order.erase key ++ [key]

/-- A store into a cache whose parts agree: the queue it leaves before evicting loses the keys
beyond the capacity from its front, each counted as one eviction. -/
theorem WellFormed.store (h : c.WellFormed) (key : String) (previous : Option CacheEntry)
    (result : Json) (lifetime : Nat) :
    (c.store key previous result lifetime).WellFormed ∧
      (c.store key previous result lifetime).order =
        (c.storedQueue key previous).drop ((c.storedQueue key previous).length - c.capacity) ∧
      (c.store key previous result lifetime).evictions =
        c.evictions + ((c.storedQueue key previous).length - c.capacity) ∧
      (c.store key previous result lifetime).hits = c.hits ∧
      (c.store key previous result lifetime).misses = c.misses ∧
      (c.store key previous result lifetime).capacity = c.capacity := by
  obtain ⟨h₁, -, -⟩ := h.forgetPrevious key previous
  obtain ⟨hcap, hhits, hmisses, hevictions⟩ := forgetPrevious_counters c key previous
  have h₂ := h₁.insert ⟨key, lifetime, result⟩
  have hstore : c.store key previous result lifetime =
      ((c.forgetPrevious key previous).insert ⟨key, lifetime, result⟩).evict := rfl
  obtain ⟨horder, hev, -, hhits', hmisses', hcap'⟩ := h₂.evict
  rw [← hstore] at horder hev hhits' hmisses' hcap'
  simp only [h₁.insert_eq, hcap, hhits, hmisses, hevictions] at horder hev hhits' hmisses' hcap'
  exact ⟨hstore ▸ h₂.evict_wellFormed, horder, hev, hhits', hmisses', hcap'⟩

theorem WellFormed.get (h : c.WellFormed) (key : String) :
    (c.get key).2.WellFormed ∧
      (c.get key).2.order = (if key ∈ c.map then c.order.erase key ++ [key] else c.order) ∧
      (c.get key).2.hits + (c.get key).2.misses = c.hits + c.misses + 1 ∧
      (c.get key).2.evictions = c.evictions ∧ (c.get key).2.capacity = c.capacity := by
  cases hentry : c.map[key]? with
  | none =>
    have hkey : key ∉ c.map := by
      rw [Std.HashMap.mem_iff_isSome_getElem?, hentry]
      simp
    have hget : (c.get key).2 = { c with misses := c.misses + 1 } := by
      simp only [ResultCache.get, hentry]
    rw [hget, if_neg hkey]
    exact ⟨⟨h.mem_iff, h.nodup⟩, rfl, by dsimp only; omega, rfl, rfl⟩
  | some entry =>
    have hkey : key ∈ c.map := by
      rw [Std.HashMap.mem_iff_isSome_getElem?, hentry]
      rfl
    have hin := (h.mem_iff key).1 hkey
    have hmem : ∀ x, x ∈ c.map ↔ x ∈ c.order.erase key ++ [key] := fun x => by
      rw [mem_moveBack h.nodup, h.mem_iff]
      by_cases hx : x = key <;> simp [hx, hin]
    simp only [ResultCache.get, hentry, if_pos hkey, touch_eq, if_pos hin]
    split
    · exact ⟨⟨hmem, nodup_moveBack h.nodup key⟩, rfl, by dsimp only; omega, rfl, rfl⟩
    · exact ⟨⟨hmem, nodup_moveBack h.nodup key⟩, rfl, by dsimp only; omega, rfl, rfl⟩

theorem WellFormed.remove (h : c.WellFormed) (keys : List String) :
    (c.remove keys).WellFormed ∧ List.Sublist (c.remove keys).order c.order ∧
      (c.remove keys).hits = c.hits ∧ (c.remove keys).misses = c.misses ∧
      (c.remove keys).evictions = c.evictions ∧ (c.remove keys).capacity = c.capacity := by
  induction keys generalizing c with
  | nil => exact ⟨h, List.Sublist.refl _, rfl, rfl, rfl, rfl⟩
  | cons k ks ih =>
    obtain ⟨h₁, horder⟩ := h.removeKey k
    obtain ⟨hwf, hsub, hhits, hmisses, hev, hcap⟩ := ih h₁
    have hremove : c.remove (k :: ks) = (c.removeKey k).remove ks := rfl
    rw [hremove]
    exact ⟨hwf, hsub.trans (horder ▸ List.erase_sublist), by rw [hhits, removeKey_eq],
      by rw [hmisses, removeKey_eq], by rw [hev, removeKey_eq], by rw [hcap, removeKey_eq]⟩

theorem clear_wellFormed (c : ResultCache) : c.clear.WellFormed where
  mem_iff x := by simp [clear]
  nodup := List.nodup_nil

end Steps

/-! ### Order of last use -/

/-- When a key was last used in a history of uses: one more than the position of its last use,
and `0` for a key never used. -/
def lastUse (hist : List String) (key : String) : Nat := hist.length - hist.reverse.idxOf key

theorem lastUse_le (hist : List String) (key : String) : lastUse hist key ≤ hist.length :=
  Nat.sub_le _ _

theorem lastUse_append_self (hist : List String) (key : String) :
    lastUse (hist ++ [key]) key = hist.length + 1 := by
  simp [lastUse]

theorem lastUse_append_of_ne (hist : List String) {used key : String} (h : used ≠ key) :
    lastUse (hist ++ [key]) used = lastUse hist used := by
  simp [lastUse, Ne.symm h]

theorem pairwise_moveBack {hist order queue : List String}
    (hs : order.Pairwise fun a b => lastUse hist a < lastUse hist b)
    (hsub : List.Sublist queue order) (hnd : queue.Nodup) (key : String) :
    (queue.erase key ++ [key]).Pairwise
      fun a b => lastUse (hist ++ [key]) a < lastUse (hist ++ [key]) b := by
  refine List.pairwise_append.2 ⟨?_, List.pairwise_singleton _ _, ?_⟩
  · -- the other keys keep their last use, and so their order
    refine ((hs.sublist hsub).sublist List.erase_sublist).imp_of_mem fun ha hb hab => ?_
    rwa [lastUse_append_of_ne _ (hnd.mem_erase_iff.1 ha).1,
      lastUse_append_of_ne _ (hnd.mem_erase_iff.1 hb).1]
  · intro a ha b hb
    rw [List.mem_singleton] at hb
    subst hb
    rw [lastUse_append_of_ne _ (hnd.mem_erase_iff.1 ha).1, lastUse_append_self]
    exact Nat.lt_succ_of_le (lastUse_le _ _)

theorem mem_drop_iff_later {α : Type} {f : α → Nat} {L : List α}
    (hs : L.Pairwise fun a b => f a < f b) {x : α} (hx : x ∈ L) (d : Nat) :
    x ∈ L.drop d ↔ (L.filter fun y => f x < f y).length < L.length - d := by
  induction L generalizing d with
  | nil => simp at hx
  | cons y L ih =>
    obtain ⟨hy, hs⟩ := List.pairwise_cons.1 hs
    by_cases hxy : x = y
    · subst hxy
      have hlater : (L.filter fun z => f x < f z) = L :=
        List.filter_eq_self.2 fun z hz => decide_eq_true (hy z hz)
      have hxL : x ∉ L := fun h => Nat.lt_irrefl _ (hy x h)
      cases d with
      | zero => simp [hlater]
      | succ d =>
        simp only [List.drop_succ_cons, List.length_cons, Nat.lt_irrefl, decide_false,
          Bool.false_eq_true, not_false_eq_true, List.filter_cons_of_neg, hlater]
        exact ⟨fun h => absurd (List.mem_of_mem_drop h) hxL, fun h => by omega⟩
    · have hxL : x ∈ L := (List.mem_cons.1 hx).resolve_left hxy
      have hyx : ¬ f x < f y := Nat.lt_asymm (hy x hxL)
      rw [List.filter_cons_of_neg (by simpa using hyx)]
      cases d with
      | zero =>
        have := List.length_filter_le (fun z => decide (f x < f z)) L
        simp only [List.drop_zero, List.length_cons, Nat.sub_zero, hx, true_iff]
        omega
      | succ d =>
        rw [List.drop_succ_cons, ih hs hxL d, List.length_cons, Nat.add_sub_add_right]

/-- A cache whose parts agree, with its queue in order of last use in a history of uses. -/
structure Recent (c : ResultCache) (hist : List String) : Prop where
  wellFormed : c.WellFormed
  inOrder : c.order.Pairwise fun a b => lastUse hist a < lastUse hist b

/-- The keys a store may keep: the stored key, and the keys of the cache other than it and the
key of the previous entry. -/
def contenders (c : ResultCache) (key : String) (previous : Option CacheEntry) : List String :=
  key :: c.order.filter fun x => x ≠ key ∧ previous.all fun p => p.identifier ≠ x

theorem WellFormed.storedQueue_perm {c : ResultCache} (h : c.WellFormed) (key : String)
    (previous : Option CacheEntry) :
    (c.storedQueue key previous).Perm (c.contenders key previous) := by
  obtain ⟨h₁, -, hmem⟩ := h.forgetPrevious key previous
  have hnd : (c.contenders key previous).Nodup :=
    List.nodup_cons.2 ⟨by simp, h.nodup.filter _⟩
  refine (List.perm_ext_iff_of_nodup (nodup_moveBack h₁.nodup key) hnd).2 fun x => ?_
  rw [mem_moveBack h₁.nodup, hmem, contenders, List.mem_cons, List.mem_filter]
  by_cases hx : x = key
  · simp [hx]
  · cases previous with
    | none => simp [hx]
    | some p => by_cases hp : p.identifier = key <;> simp [hx, hp, Ne.symm hx]

/-- A store into a cache in order of last use keeps within the capacity, forgets the key of a
previous entry that differs from its own, keeps exactly the contenders of which fewer than
`capacity` others were used more recently, and counts every contender it does not keep as one
eviction. -/
theorem Recent.store {c : ResultCache} {hist : List String} (h : c.Recent hist) (key : String)
    (previous : Option CacheEntry) (result : Json) (lifetime : Nat) :
    let c' := c.store key previous result lifetime
    let S := c.contenders key previous
    c'.map.size ≤ c.capacity ∧
      (∀ p, previous = some p → p.identifier ≠ key → p.identifier ∉ c'.map) ∧
      (∀ x, x ∈ c'.map ↔ x ∈ S ∧
        (S.filter fun y => lastUse (hist ++ [key]) x < lastUse (hist ++ [key]) y).length <
          c.capacity) ∧
      c'.evictions + c'.map.size = c.evictions + S.length := by
  intro c' S
  obtain ⟨h₁, hsub, -⟩ := h.wellFormed.forgetPrevious key previous
  obtain ⟨hwf, horder, hev, -⟩ := h.wellFormed.store key previous result lifetime
  have hperm := h.wellFormed.storedQueue_perm key previous
  have hsorted : (c.storedQueue key previous).Pairwise
      fun a b => lastUse (hist ++ [key]) a < lastUse (hist ++ [key]) b :=
    pairwise_moveBack h.inOrder hsub h₁.nodup key
  have hsize : c'.map.size = (c.storedQueue key previous).length -
      ((c.storedQueue key previous).length - c.capacity) := by
    rw [hwf.size_eq, horder, List.length_drop]
  have hmem : ∀ x, x ∈ c'.map ↔ x ∈ (c.storedQueue key previous).drop
      ((c.storedQueue key previous).length - c.capacity) := fun x => by
    rw [hwf.mem_iff, horder]
  refine ⟨by omega, fun p hp hne hin => ?_, fun x => ?_, ?_⟩
  · have hS : p.identifier ∈ S := hperm.mem_iff.1 (List.mem_of_mem_drop ((hmem _).1 hin))
    simp [S, contenders, hp, hne] at hS
  · rw [hmem, ← hperm.mem_iff, ← (hperm.filter _).length_eq]
    constructor
    · intro hx
      have hxL := List.mem_of_mem_drop hx
      exact ⟨hxL, by have := (mem_drop_iff_later hsorted hxL _).1 hx; omega⟩
    · rintro ⟨hxL, hcount⟩
      refine (mem_drop_iff_later hsorted hxL _).2 ?_
      have hlt : ((c.storedQueue key previous).filter fun y => decide
          (lastUse (hist ++ [key]) x < lastUse (hist ++ [key]) y)).length <
            (c.storedQueue key previous).length :=
        List.length_filter_lt_length_iff_exists.2 ⟨x, hxL, by simp⟩
      omega
  · rw [hev, hsize, ← hperm.length_eq]
    omega

/-! ### Runs of operations -/

end ResultCache

/-- An operation on a result cache. -/
inductive CacheOp where
  | get (key : String)
  | store (key : String) (previous : Option CacheEntry) (result : Json) (lifetime : Nat)
  | remove (keys : List String)
  | clear

namespace CacheOp

def isGet : CacheOp → Bool
  | .get _ => true
  | _ => false

def isStore : CacheOp → Bool
  | .store .. => true
  | _ => false

end CacheOp

namespace ResultCache

/-- The cache after an operation. -/
def apply (c : ResultCache) : CacheOp → ResultCache
  | .get key => (c.get key).2
  | .store key previous result lifetime => c.store key previous result lifetime
  | .remove keys => c.remove keys
  | .clear => c.clear

/-- The keys an operation uses: a lookup uses its key when it finds it, a store always. -/
def uses (c : ResultCache) : CacheOp → List String
  | .get key => if key ∈ c.map then [key] else []
  | .store key .. => [key]
  | _ => []

def run (c : ResultCache) : List CacheOp → ResultCache
  | [] => c
  | op :: ops => (c.apply op).run ops

def history (c : ResultCache) : List CacheOp → List String
  | [] => []
  | op :: ops => c.uses op ++ (c.apply op).history ops

section Runs

variable {c : ResultCache} {hist : List String}

theorem Recent.apply (h : c.Recent hist) (op : CacheOp) : (c.apply op).Recent (hist ++ c.uses op) := by
  cases op with
  | get key =>
    obtain ⟨hwf, horder, -⟩ := h.wellFormed.get key
    refine ⟨hwf, ?_⟩
    by_cases hk : key ∈ c.map
    · rw [ResultCache.apply, horder, uses, if_pos hk, if_pos hk]
      exact pairwise_moveBack h.inOrder (List.Sublist.refl _) h.wellFormed.nodup key
    · rw [ResultCache.apply, horder, uses, if_neg hk, if_neg hk, List.append_nil]
      exact h.inOrder
  | store key previous result lifetime =>
    obtain ⟨h₁, hsub, -⟩ := h.wellFormed.forgetPrevious key previous
    obtain ⟨hwf, horder, -⟩ := h.wellFormed.store key previous result lifetime
    refine ⟨hwf, ?_⟩
    rw [ResultCache.apply, horder, uses]
    exact (pairwise_moveBack h.inOrder hsub h₁.nodup key).sublist (List.drop_sublist _ _)
  | remove keys =>
    obtain ⟨hwf, hsub, -⟩ := h.wellFormed.remove keys
    have huses : c.uses (.remove keys) = [] := rfl
    rw [huses, List.append_nil]
    exact ⟨hwf, h.inOrder.sublist hsub⟩
  | clear => exact ⟨clear_wellFormed c, List.Pairwise.nil⟩

theorem Recent.run (h : c.Recent hist) (ops : List CacheOp) :
    (c.run ops).Recent (hist ++ c.history ops) := by
  induction ops generalizing c hist with
  | nil => simpa [ResultCache.run, history] using h
  | cons op ops ih =>
    simpa [ResultCache.run, history, List.append_assoc] using ih (h.apply op)

theorem WellFormed.apply_counters (h : c.WellFormed) (op : CacheOp) :
    (c.apply op).hits + (c.apply op).misses = c.hits + c.misses + (if op.isGet then 1 else 0) ∧
      (op.isStore = false → (c.apply op).evictions = c.evictions) ∧
      (c.apply op).capacity = c.capacity := by
  cases op with
  | get key =>
    obtain ⟨-, -, hcount, hev, hcap⟩ := h.get key
    exact ⟨hcount, fun _ => hev, hcap⟩
  | store key previous result lifetime =>
    obtain ⟨-, -, -, hhits, hmisses, hcap⟩ := h.store key previous result lifetime
    exact ⟨by simp [ResultCache.apply, CacheOp.isGet, hhits, hmisses], by simp [CacheOp.isStore],
      hcap⟩
  | remove keys =>
    obtain ⟨-, -, hhits, hmisses, hev, hcap⟩ := h.remove keys
    exact ⟨by simp [ResultCache.apply, CacheOp.isGet, hhits, hmisses], fun _ => hev, hcap⟩
  | clear => exact ⟨by simp [ResultCache.apply, CacheOp.isGet, clear], fun _ => rfl, rfl⟩

theorem Recent.run_counters (h : c.Recent hist) (ops : List CacheOp) :
    (c.run ops).hits + (c.run ops).misses = c.hits + c.misses + (ops.filter (·.isGet)).length ∧
      (c.run ops).capacity = c.capacity := by
  induction ops generalizing c hist with
  | nil => simp [ResultCache.run]
  | cons op ops ih =>
    obtain ⟨hcount, -, hcap⟩ := h.wellFormed.apply_counters op
    obtain ⟨hcount', hcap'⟩ := ih (h.apply op)
    refine ⟨?_, by rw [ResultCache.run, hcap', hcap]⟩
    rw [ResultCache.run, hcount', hcount, List.filter_cons]
    cases op.isGet
    · simp
    · simp only [if_true, List.length_cons]
      omega

end Runs

/-- Along every run of lookups, stores, removals and clears on a cache of capacity `capacity`,
from empty: the map has an entry for exactly the keys of the queue, which holds each key once
and in order of last use; hits and misses together count the lookups; only stores evict; and
the next store keeps at most `capacity` entries, forgets the key of a previous entry that
differs from its own, keeps exactly the contenders of which fewer than `capacity` others were
used more recently, and counts each contender it does not keep as one eviction. -/
theorem run_keeps_recency_order (capacity : Nat) (ops : List CacheOp) :
    let c := (new capacity).run ops
    let hist := (new capacity).history ops
    c.WellFormed ∧ (c.order.Pairwise fun a b => lastUse hist a < lastUse hist b) ∧
      c.hits + c.misses = (ops.filter (·.isGet)).length ∧
      (∀ op, op.isStore = false → (c.apply op).evictions = c.evictions) ∧
      ∀ key previous result lifetime,
        let c' := c.store key previous result lifetime
        let S := c.contenders key previous
        c'.map.size ≤ capacity ∧
          (∀ p, previous = some p → p.identifier ≠ key → p.identifier ∉ c'.map) ∧
          (∀ x, x ∈ c'.map ↔ x ∈ S ∧
            (S.filter fun y => lastUse (hist ++ [key]) x < lastUse (hist ++ [key]) y).length <
              capacity) ∧
          c'.evictions + c'.map.size = c.evictions + S.length := by
  intro c hist
  have hnew : (new capacity).Recent [] := ⟨new_wellFormed capacity, List.Pairwise.nil⟩
  have hrun : c.Recent hist := by simpa using hnew.run ops
  obtain ⟨hcount, hcap⟩ := hnew.run_counters ops
  have hcount' : ((new capacity).run ops).hits + ((new capacity).run ops).misses =
      (ops.filter (·.isGet)).length := by
    rw [hcount]
    simp [new]
  refine ⟨hrun.wellFormed, hrun.inOrder, hcount',
    fun op hop => (hrun.wellFormed.apply_counters op).2.1 hop, fun key previous result lifetime => ?_⟩
  have hstore := hrun.store key previous result lifetime
  rw [hcap] at hstore
  exact hstore

end ResultCache

end EntitySql
