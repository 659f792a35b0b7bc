import NovaEdge.FederationDrift
import NovaEdge.SortOrder

/-! Comparison of the Merkle trees over any two maps from keys to hashes. Keys and hashes of a leaf
are hashed without a separator, so that different maps can have trees that are alike. -/
namespace NovaEdge.Federation
open KeyedMap HashTree List

section
variable (sha256 : Sha256)

def MerkleTree.remove (t : MerkleTree) (key : String) : MerkleTree where
 resources := t.resources.delete key
 root := rebuiltRoot sha256 (t.resources.delete key)

inductive TreeCall
 | update (key hash : String)
 | remove (key : String)

def MerkleTree.call (t : MerkleTree) : TreeCall → MerkleTree
 | .update key hash => t.update sha256 key hash
 | .remove key => t.remove sha256 key

def builtTree (calls : List TreeCall) : MerkleTree := calls.foldl (fun t c => t.call sha256 c) {}

end

structure ComparesExactly (t other : MerkleTree) : Prop where
 nodup : (t.compare (some other)).Nodup
 mem_iff : ∀ key,
  key ∈ t.compare (some other) ↔ t.resources.find? key ≠ other.resources.find? key
 eq_nil : (∀ key, t.resources.find? key = other.resources.find? key) → t.compare (some other) = []

def mapContent (resources : KeyedMap String String) : HashTree.Tree Octet merkleTreeDepth :=
 treeContent resources merkleTreeDepth (sortKeys resources.keys) []

def NoCollisionBetween (sha256 : Sha256) (m m' : KeyedMap String String) : Prop :=
 Set.InjOn (nodeHash sha256) (texts (merkleHashing sha256) merkleTreeDepth (mapContent m) ∪
   texts (merkleHashing sha256) merkleTreeDepth (mapContent m'))

/-- The maps are equal, one of them is empty, or what is written into their trees differs. -/
def TreesTellApart (sha256 : Sha256) (m m' : KeyedMap String String) : Prop :=
 (∀ key, m.find? key = m'.find? key) ∨ m.keys = [] ∨ m'.keys = [] ∨
  ¬ HashTree.Alike (merkleHashing sha256) merkleTreeDepth (mapContent m) (mapContent m')

section
variable {sha256 : Sha256} {t oth : MerkleTree}

lemma root_builtTree (sha : Sha256) (cs : List TreeCall) :
  (builtTree sha cs).root = rebuiltRoot sha (builtTree sha cs).resources := by
 suffices h : ∀ t : MerkleTree, t.root = rebuiltRoot sha t.resources →
   (cs.foldl (fun t c => t.call sha c) t).root =
    rebuiltRoot sha (cs.foldl (fun t c => t.call sha c) t).resources from h {} rfl
 induction cs with
 | nil => exact fun t ht => ht
 | cons c cs ih =>
  intro t _
  cases c with
  | update key hash => exact ih (t.update sha key hash) rfl
  | remove key => exact ih (t.remove sha key) rfl

lemma nodup_compare (t oth : MerkleTree) : (t.compare (some oth)).Nodup := by
 rw [MerkleTree.compare]
 split_ifs with ha
 · exact nodup_nil
 have hu : ∀ (m : KeyedMap String String) (p : String × String → Bool),
   ((m.pairs.filter p).map Prod.fst).Nodup := fun m p =>
  (filter_sublist.map Prod.fst).nodup m.pairs_keys_nodup
 refine (hu _ _).append (hu _ _) ?_
 -- The second list has only keys that the first map lacks.
 intro key hk hk'
 obtain ⟨e,he,rfl⟩ := mem_map.mp hk
 obtain ⟨e',he',hf⟩ := mem_map.mp hk'
 have hfi := mem_pairs_iff.mp (mem_filter.mp he).1
 have hn := (mem_filter.mp he').2
 simp [hf,hfi] at hn

lemma comparesExactly_iff : ComparesExactly t oth ↔
      (t.sameRoot oth = true → ∀ key, t.resources.find? key = oth.resources.find? key) := by
 constructor
 · intro h ha key
   by_contra hn
   have hm := MerkleTree.mem_compare.mp ((h.mem_iff key).mpr hn)
   rw [ha] at hm
   exact absurd hm.1 (by decide)
 · intro h
   have hm : ∀ key, key ∈ t.compare (some oth) ↔
     t.resources.find? key ≠ oth.resources.find? key := by
    intro key
    rw [MerkleTree.mem_compare,and_iff_right_iff_imp]
    intro hn
    exact Bool.eq_false_iff.mpr fun ha => hn (h ha key)
   refine ⟨nodup_compare t oth,hm,fun hq => ?_⟩
   exact eq_nil_iff_forall_not_mem.mpr fun key hk => (hm key).mp hk (hq key)

lemma sameRoot_iff_alike (ht : t.root = rebuiltRoot sha256 t.resources)
  (ho : oth.root = rebuiltRoot sha256 oth.resources)
  (hc : NoCollisionBetween sha256 t.resources oth.resources) :
  t.sameRoot oth = true ↔ t.resources.keys ≠ [] ∧ oth.resources.keys ≠ [] ∧
   HashTree.Alike (merkleHashing sha256) merkleTreeDepth (mapContent t.resources)
    (mapContent oth.resources) := by
 rw [MerkleTree.sameRoot,ht,ho,rebuiltRoot,rebuiltRoot]
 by_cases hk : t.resources.keys = []
 · simp [hk]
 by_cases hk' : oth.resources.keys = []
 · simp [hk,hk']
 have hr := root_hash_eq_iff (H := merkleHashing sha256) hc
  Set.subset_union_left Set.subset_union_right
 simp only [if_neg hk,if_neg hk',hash_buildNode,decide_eq_true_eq]
 exact hr.trans (by simp [hk,hk'])

end

section

lemma octets_injective : Function.Injective octets := by
 intro a b h
 have hb : a.toUTF8.data.toList = b.toUTF8.data.toList :=
  map_injective_iff.mpr (fun x y hx => UInt8.toFin_inj.mp hx) h
 exact String.toByteArray_inj.mp (ByteArray.ext (Array.toList_inj.mp hb))

variable {m m' : KeyedMap String String} (h : ∀ key, m.find? key = m'.find? key)
include h

lemma sortKeys_congr : sortKeys m.keys = sortKeys m'.keys := by
 have hpe : m.keys.Perm m'.keys := by
  refine (perm_ext_iff_of_nodup m.keys_nodup m'.keys_nodup).mpr fun key => ?_
  rw [mem_keys_iff,mem_keys_iff,h]
 have ho : ∀ l : List String, SortOrder.SortedBy octets l (sortKeys l) := by
  intro l
  refine ⟨mergeSort_perm l _,?_⟩
  have hp := @pairwise_mergeSort _ (fun a b : String => decide (octets a ≤ octets b))
   (fun a b c ha hb => by simp only [decide_eq_true_eq] at *; exact ha.trans hb)
   (fun a b => by simpa using le_total (octets a) (octets b)) l
  exact hp.imp fun ha => of_decide_eq_true ha
 have hu : SortOrder.UniqueBy octets m.keys := fun a _ b _ ha => octets_injective ha
 exact hu.sorted_eq (ho _) ((ho _).of_perm hpe.symm)

lemma buildNode_congr (sha : Sha256) (d : ℕ) (keys : List String) (pre : List Octet) :
  buildNode sha m d keys pre = buildNode sha m' d keys pre := by
 have hl : ∀ keys, leafText m keys = leafText m' keys := fun keys => by simp only [leafText,h]
 induction d generalizing keys pre with
 | zero => rw [buildNode,buildNode,hl]
 | succ d ih => simp only [buildNode,hl,ih]

lemma rebuiltRoot_congr (sha : Sha256) : rebuiltRoot sha m = rebuiltRoot sha m' := by
 have hk : m.keys = [] ↔ m'.keys = [] := by simp only [eq_nil_iff_forall_not_mem,mem_keys_iff,h]
 simp only [rebuiltRoot,hk,sortKeys_congr h,buildNode_congr h]

end

/-- Whatever calls built the two trees, comparing them is exact exactly if the trees tell the maps
apart. -/
theorem comparison_exact_iff (sha256 : Sha256) (calls calls' : List TreeCall)
  (hcollision : NoCollisionBetween sha256 (builtTree sha256 calls).resources
   (builtTree sha256 calls').resources) :
  ComparesExactly (builtTree sha256 calls) (builtTree sha256 calls') ↔
   TreesTellApart sha256 (builtTree sha256 calls).resources
    (builtTree sha256 calls').resources := by
 rw [comparesExactly_iff,sameRoot_iff_alike (root_builtTree sha256 calls)
  (root_builtTree sha256 calls') hcollision,TreesTellApart]
 constructor
 · intro h
   by_contra hn
   push Not at hn
   obtain ⟨⟨key,hk⟩,hke,hk',ha⟩ := hn
   exact hk (h ⟨hke,hk',ha⟩ key)
 · rintro (hq | hke | hk' | ha) ⟨hne,hn',h⟩
   · exact hq
   · exact absurd hke hne
   · exact absurd hk' hn'
   · exact absurd h ha

lemma mapContent_single (sha : Sha256) (key hash : String) :
  mapContent (builtTree sha [.update key hash]).resources =
   leaf (octets key ++ octets hash) merkleTreeDepth := by
 have hk : (builtTree sha [.update key hash]).resources.keys = [key] := rfl
 have hf : (builtTree sha [.update key hash]).resources.find? key = some hash :=
  find?_set_self ∅ _ _
 rw [mapContent,hk,sortKeys,mergeSort_singleton,merkleTreeDepth,treeContent,
  if_pos (by simp),leafText,flatMap_singleton,hf]
 rfl

theorem versions_compare_exactly :
  ComparesExactly (builtTree sampleSha256 [.update "ProxyRoute/default/web" "v1"])
   (builtTree sampleSha256 [.update "ProxyRoute/default/web" "v2"]) := by
 have hdi : octets "ProxyRoute/default/web" ++ octets "v1" ≠
   octets "ProxyRoute/default/web" ++ octets "v2" := by
  decide +kernel
 have hh : nodeHash sampleSha256 (octets "ProxyRoute/default/web" ++ octets "v1") ≠
   nodeHash sampleSha256 (octets "ProxyRoute/default/web" ++ octets "v2") := by
  decide +kernel
 refine (comparison_exact_iff sampleSha256 _ _ ?_).mpr ?_
 · rw [NoCollisionBetween,mapContent_single,mapContent_single,texts_leaf,texts_leaf]
   rintro x (rfl | rfl) y (rfl | rfl) h
   · rfl
   · exact absurd h hh
   · exact absurd h.symm hh
   · rfl
 · refine .inr (.inr (.inr ?_))
   rw [mapContent_single,mapContent_single]
   exact hdi

/-- A key and its hash run together like another key and its hash. -/
theorem run_together_maps_compare_equal : NoCollisionBetween sampleSha256
        (builtTree sampleSha256 [.update "ProxyRoute/default/web" "v1"]).resources
        (builtTree sampleSha256 [.update "ProxyRoute/default/webv" "1"]).resources ∧
      ¬ ComparesExactly (builtTree sampleSha256 [.update "ProxyRoute/default/web" "v1"])
       (builtTree sampleSha256 [.update "ProxyRoute/default/webv" "1"]) := by
 have ht : octets "ProxyRoute/default/web" ++ octets "v1" =
   octets "ProxyRoute/default/webv" ++ octets "1" := by
  decide +kernel
 have hc : NoCollisionBetween sampleSha256
   (builtTree sampleSha256 [.update "ProxyRoute/default/web" "v1"]).resources
   (builtTree sampleSha256 [.update "ProxyRoute/default/webv" "1"]).resources := by
  rw [NoCollisionBetween,mapContent_single,mapContent_single,ht,texts_leaf,Set.union_self]
  exact Set.injOn_singleton _ _
 refine ⟨hc,fun h => ?_⟩
 rw [comparesExactly_iff,sameRoot_iff_alike (root_builtTree _ _) (root_builtTree _ _) hc,
  mapContent_single,mapContent_single] at h
 have hf := h ⟨by decide,by decide,ht⟩ "ProxyRoute/default/web"
 cases hf

end NovaEdge.Federation
