import NovaEdge.FederationClockBound
import NovaEdge.HashTree
import NovaEdge.KeyedMapPatch
import NovaEdge.KeyedMapReplace

/-! Drift detection between two members: each builds a Merkle tree over the hashes of its own
resources, and the trees are compared. Texts are byte strings, and keys are split and ordered by
their bytes. -/
namespace NovaEdge.Federation
open KeyedMap HashTree List

abbrev Octet := Fin 256

def octets (s : String) : List Octet := s.toUTF8.data.toList.map UInt8.toFin

def hexDigit (d : Fin 16) : Octet := Fin.ofNat 256 (if d < 10 then 48+d else 87+d)

def hexEncode (bytes : List Octet) : List Octet :=
 bytes.flatMap fun b => [hexDigit (Fin.ofNat 16 (b / 16)),hexDigit (Fin.ofNat 16 (b % 16))]

abbrev Sha256 := List Octet → Fin 32 → Octet

def merkleTreeDepth : ℕ := 4

inductive MerkleNode
 | leaf (hash : List Octet) (resources : List String)
 | inner (hash : List Octet) (children : List (List Octet × MerkleNode))

def MerkleNode.hash : MerkleNode → List Octet
 | .leaf hash _ => hash
 | .inner hash _ => hash

structure MerkleTree where
 resources : KeyedMap String String := ∅
 root : Option MerkleNode := none

def leafText (resources : KeyedMap String String) (keys : List String) : List Octet :=
 keys.flatMap fun key => octets key ++ octets ((resources.find? key).getD "")

def bucketOf (pre : List Octet) (key : String) : Option Octet := (octets key)[pre.length]?

def buckets (pre : List Octet) (keys : List String) : List (Option Octet × List String) :=
 (keys.map (bucketOf pre)).dedup.map fun b => (b,keys.filter fun key => bucketOf pre key = b)

section
variable (sha256 : Sha256)

def nodeHash (x : List Octet) : List Octet :=
 hexEncode (List.ofFn fun i : Fin 16 => sha256 x (i.castLE (by decide)))

/-- The first argument is the number of levels below the node. -/
def buildNode (resources : KeyedMap String String) : ℕ → List String → List Octet → MerkleNode
 | 0, keys, _ => .leaf (nodeHash sha256 (leafText resources keys)) keys
 | d+1, keys, pre =>
  if keys.length ≤ 4 then .leaf (nodeHash sha256 (leafText resources keys)) keys
  else
   let children := (buckets pre keys).map fun b =>
    (pre ++ b.1.toList,buildNode resources d b.2 (pre ++ b.1.toList))
   .inner (nodeHash sha256 ((children.map fun c => c.2.hash).mergeSort fun a b => a ≤ b).flatten)
    children

def sortKeys (keys : List String) : List String := keys.mergeSort fun a b => octets a ≤ octets b

def rebuiltRoot (resources : KeyedMap String String) : Option MerkleNode :=
 if resources.keys = [] then none
 else some (buildNode sha256 resources merkleTreeDepth (sortKeys resources.keys) [])

namespace MerkleTree

def update (t : MerkleTree) (key hash : String) : MerkleTree where
 resources := t.resources.set key hash
 root := rebuiltRoot sha256 (t.resources.set key hash)

def sameRoot (t other : MerkleTree) : Bool :=
 match t.root, other.root with
 | some a, some b => a.hash = b.hash
 | _, _ => false

def compare (t : MerkleTree) : Option MerkleTree → List String
 | none => t.resources.keys
 | some other =>
  if t.sameRoot other then []
  else
   ((t.resources.pairs.filter fun e => other.resources.find? e.1 ≠ some e.2).map Prod.fst) ++
    (other.resources.pairs.filter fun e => (t.resources.find? e.1).isNone).map Prod.fst

end MerkleTree

def rebuildLocalTree (s : Server) : MerkleTree :=
 s.resources.pairs.foldl (fun t e => t.update sha256 e.1 e.2.hash) {}

def Drifted (s s' : Server) (key : String) (r r' : TrackedResource) : Prop :=
 s.resources.find? key = some r ∧ s'.resources.find? key = some r' ∧ r.data ≠ r'.data

def DriftDetected (s s' : Server) : Prop := ∀ key r r', Drifted s s' key r r' →
  key ∈ (rebuildLocalTree sha256 s).compare (some (rebuildLocalTree sha256 s'))

end

/-- What a tree over the given hashes is made of: leaf texts, and nodes without an order of their
children. -/
def treeContent (resources : KeyedMap String String) :
  (d : ℕ) → List String → List Octet → HashTree.Tree Octet d
 | 0, keys, _ => leaf (leafText resources keys) 0
 | d+1, keys, pre =>
  if keys.length ≤ 4 then leaf (leafText resources keys) (d+1)
  else node
   ↑((buckets pre keys).map fun b => treeContent resources d b.2 (pre ++ b.1.toList))

def resourceHashes (s : Server) : KeyedMap String String :=
 putWhere (fun _ => true) TrackedResource.hash s.resources ∅

def serverContent (s : Server) : HashTree.Tree Octet merkleTreeDepth :=
 treeContent (resourceHashes s) merkleTreeDepth (sortKeys (resourceHashes s).keys) []

/-- The stored hashes of every drifted key differ, and so do the texts that the trees are made
of. -/
def HashesTellApart (s s' : Server) : Prop :=
 ∀ key r r', Drifted s s' key r r' → r.hash ≠ r'.hash ∧ serverContent s ≠ serverContent s'

lemma hexDigit_ne_slash (d : Fin 16) : hexDigit d ≠ 47 := by
 revert d
 decide

def merkleHashing (sha256 : Sha256) : HashTree.Hashing Octet where
 hash := nodeHash sha256
 width := 32
 width_pos := by decide
 length_hash x := by simp [nodeHash,hexEncode]
 mark := 47
 mark_notMem_hash x := by
  simp only [nodeHash,hexEncode,mem_flatMap,mem_cons,not_mem_nil,or_false]
  rintro ⟨b,-,h | h⟩
  · exact hexDigit_ne_slash _ h.symm
  · exact hexDigit_ne_slash _ h.symm

/-- No two texts that are hashed in the trees of the two servers have one hash. -/
def NoCollision (sha256 : Sha256) (s s' : Server) : Prop := Set.InjOn (nodeHash sha256)
  (texts (merkleHashing sha256) merkleTreeDepth (serverContent s) ∪
   texts (merkleHashing sha256) merkleTreeDepth (serverContent s'))

section
variable (sha : Sha256) (ress : KeyedMap String String)

lemma hash_buildNode (d : ℕ) (keys : List String) (pre : List Octet) :
  (buildNode sha ress d keys pre).hash =
   nodeHash sha (text (merkleHashing sha) d (treeContent ress d keys pre)) := by
 induction d generalizing keys pre with
 | zero => rfl
 | succ d ih =>
  by_cases hf : keys.length ≤ 4
  · rw [buildNode,treeContent,if_pos hf,if_pos hf,text_leaf]
    rfl
  · rw [buildNode,treeContent,if_neg hf,if_neg hf]
    have hc : ((buckets pre keys).map fun b =>
          (pre ++ b.1.toList,buildNode sha ress d b.2 (pre ++ b.1.toList))).map
           (fun c => c.2.hash) =
      ((buckets pre keys).map fun b => treeContent ress d b.2 (pre ++ b.1.toList)).map
       fun c => nodeHash sha (text (merkleHashing sha) d c) := by
     rw [map_map,map_map]
     exact map_congr_left fun b _ => ih b.2 (pre ++ b.1.toList)
    change nodeHash sha _ = nodeHash sha _
    rw [hc]
    rfl

variable {keys : List String}

variable {ress} in
lemma marked_leafText (hn : keys ≠ []) (hl : ∀ key ∈ keys, (47 : Octet) ∈ octets key) :
  (47 : Octet) ∈ leafText ress keys := by
 obtain ⟨key,hk⟩ := exists_mem_of_ne_nil keys hn
 exact mem_flatMap.mpr ⟨key,hk,mem_append_left _ (hl key hk)⟩

lemma bucket_ne_nil {pre : List Octet} {b : Option Octet × List String}
  (hb : b ∈ buckets pre keys) : b.2 ≠ [] ∧ ∀ key ∈ b.2, key ∈ keys := by
 obtain ⟨c,hc,rfl⟩ := mem_map.mp hb
 obtain ⟨key,hk,hu⟩ := mem_map.mp (mem_dedup.mp hc)
 constructor
 · exact ne_nil_of_mem (mem_filter.mpr ⟨hk,by simpa using hu⟩)
 · exact fun key hk => (mem_filter.mp hk).1

variable {ress} in
lemma marked_treeContent {d : ℕ} (pre : List Octet) (hn : keys ≠ [])
  (hl : ∀ key ∈ keys, (47 : Octet) ∈ octets key) :
  HashTree.Marked (merkleHashing sha) d (treeContent ress d keys pre) := by
 induction d generalizing keys pre with
 | zero => exact marked_leafText hn hl
 | succ d ih =>
  by_cases hf : keys.length ≤ 4
  · rw [treeContent,if_pos hf,marked_leaf]
    exact marked_leafText hn hl
  · rw [treeContent,if_neg hf,marked_node]
    intro c hc
    obtain ⟨b,hb,rfl⟩ := mem_map.mp (Multiset.mem_coe.mp hc)
    obtain ⟨hbn,hu⟩ := bucket_ne_nil hb
    exact ih _ hbn fun key hk => hl key (hu key hk)

end

/-- Unless the roots agree, the comparison lists the keys that the maps differ on. -/
lemma MerkleTree.mem_compare {t oth : MerkleTree} {key : String} : key ∈ t.compare (some oth) ↔
      t.sameRoot oth = false ∧ t.resources.find? key ≠ oth.resources.find? key := by
 cases ha : t.sameRoot oth with
 | true => simp [MerkleTree.compare,ha]
 | false =>
  simp only [MerkleTree.compare,ha,Bool.false_eq_true,if_false,mem_append,
   mem_map,mem_filter,Prod.exists,mem_pairs_iff,true_and]
  constructor
  · rintro (⟨key',hash,⟨hp,hn⟩,rfl⟩ | ⟨key',hash,⟨hp,ho⟩,rfl⟩) hq
    · simp [← hq,hp] at hn
    · simp [hq,hp] at ho
  · intro hn
    cases hf : t.resources.find? key with
    | some hash => exact .inl ⟨key,hash,⟨hf,by simpa [hf] using Ne.symm hn⟩,rfl⟩
    | none =>
     rw [hf] at hn
     obtain ⟨hash,hh⟩ := ne_none_iff_exists'.mp hn.symm
     exact .inr ⟨key,hash,⟨hh,by simp [hf]⟩,rfl⟩

lemma find?_resourceHashes (s : Server) (key : String) :
  (resourceHashes s).find? key = (s.resources.find? key).map TrackedResource.hash := by
 rw [resourceHashes,find?_putWhere]
 cases s.resources.find? key <;> simp [Option.filter]

lemma foldl_update {α : Type*} (sha : Sha256) (f : α → String) (l : List (String × α)) :
  (l.foldl (fun t e => t.update sha e.1 (f e.2)) ({} : MerkleTree)).resources =
    l.foldl (fun acc e => acc.set e.1 (f e.2)) ∅ ∧
   (l.foldl (fun t e => t.update sha e.1 (f e.2)) ({} : MerkleTree)).root =
    rebuiltRoot sha (l.foldl (fun acc e => acc.set e.1 (f e.2)) ∅) := by
 suffices h : ∀ t : MerkleTree, t.root = rebuiltRoot sha t.resources →
   (l.foldl (fun t e => t.update sha e.1 (f e.2)) t).resources =
     l.foldl (fun acc e => acc.set e.1 (f e.2)) t.resources ∧
    (l.foldl (fun t e => t.update sha e.1 (f e.2)) t).root =
     rebuiltRoot sha (l.foldl (fun acc e => acc.set e.1 (f e.2)) t.resources) from h {} rfl
 induction l with
 | nil => exact fun t ht => ⟨rfl,ht⟩
 | cons e l ih => exact fun t _ => ih (t.update sha e.1 (f e.2)) rfl

lemma rebuildLocalTree_eq (sha : Sha256) (s : Server) :
  (rebuildLocalTree sha s).resources = resourceHashes s ∧
   (rebuildLocalTree sha s).root = rebuiltRoot sha (resourceHashes s) := by
 exact foldl_update sha TrackedResource.hash s.resources.pairs

def KeysOfResources (s : Server) : Prop :=
 ∀ k, (s.register k).live.isSome ∨ (s.register k).parked.isSome → ∃ key : ResourceKey, k = key.string

lemma KeysOfResources.step {s : Server} (h : KeysOfResources s) (co : Codec) (op : Op) :
  KeysOfResources (s.step co op) := by
 intro k hk
 have ht := registerStep co s op k
 generalize (s.step co op).register k = g at hk ht
 cases ht with
 | unchanged | cleaned now => exact h k hk
 | recorded id key t data labels stamp stored hke => exact ⟨key,hke⟩
 | received p change d m hke => exact ⟨change.key,hke⟩
 | resolved useLocal =>
  cases hp : (s.register k).parked with
  | some c => exact h k (.inr (by rw [hp]; rfl))
  | none =>
   rw [Register.resolve,hp] at hk
   exact h k hk

lemma keysOfResources_serverRun (co : Codec) (cfg : Config) (ops : List Op) :
  KeysOfResources (serverRun co cfg ops) := by
 refine (reachable_serverRun co cfg ops).invariant ?_ ?_
 · rintro s ⟨cfg,rfl⟩ k hk
   simp at hk
 · rintro s op s' hn rfl
   exact hn.step co op

lemma octets_append (a b : String) : octets (a ++ b) = octets a ++ octets b := by
 simp [octets,String.toUTF8,String.toByteArray_append]

lemma slash_mem_octets (key : ResourceKey) : (47 : Octet) ∈ octets key.string := by
 have hl : octets "/" = [47] := by decide +kernel
 unfold ResourceKey.string
 split_ifs <;> simp [octets_append,hl]

section
variable {sha : Sha256} {s s' : Server}

variable {key : String} {r : TrackedResource}

lemma keys_resourceHashes_ne_nil (hr : s.resources.find? key = some r) :
  (resourceHashes s).keys ≠ [] := by
 have hm : key ∈ (resourceHashes s).keys := by
  rw [mem_keys_iff,find?_resourceHashes,hr]
  rfl
 exact ne_nil_of_mem hm

lemma marked_serverContent (hs : KeysOfResources s) (hr : s.resources.find? key = some r) :
  HashTree.Marked (merkleHashing sha) merkleTreeDepth (serverContent s) := by
 refine marked_treeContent sha [] ?_ ?_
 · intro hn
   refine keys_resourceHashes_ne_nil hr (eq_nil_of_length_eq_zero ?_)
   rw [← length_mergeSort (resourceHashes s).keys]
   exact congrArg List.length hn
 · intro k hk
   have hl : (s.resources.find? k).isSome := by
    have hm := mem_keys_iff.mp (mem_mergeSort.mp hk)
    rwa [find?_resourceHashes,Option.isSome_map] at hm
   obtain ⟨rsc,rfl⟩ := hs k (.inl hl)
   exact slash_mem_octets rsc

lemma sameRoot_iff (hs : KeysOfResources s) (hs' : KeysOfResources s')
  (hc : NoCollision sha s s') {key' : String} {r' : TrackedResource}
  (hr : s.resources.find? key = some r) (hr' : s'.resources.find? key' = some r') :
  (rebuildLocalTree sha s).sameRoot (rebuildLocalTree sha s') = true ↔
   serverContent s = serverContent s' := by
 have ho : ∀ {s : Server} {key : String} {r : TrackedResource},
   s.resources.find? key = some r → (rebuildLocalTree sha s).root =
    some (buildNode sha (resourceHashes s) merkleTreeDepth
     (sortKeys (resourceHashes s).keys) []) := by
  intro s key r hr
  rw [(rebuildLocalTree_eq sha s).2,rebuiltRoot,if_neg (keys_resourceHashes_ne_nil hr)]
 rw [MerkleTree.sameRoot,ho hr,ho hr']
 simp only [hash_buildNode,decide_eq_true_eq]
 constructor
 · intro h
   exact eq_of_root_hash_eq (H := merkleHashing sha) hc
    (marked_serverContent hs hr) (marked_serverContent hs' hr') Set.subset_union_left
    Set.subset_union_right h
 · intro h
   change nodeHash sha (text _ _ (serverContent s)) =
    nodeHash sha (text _ _ (serverContent s'))
   rw [h]

lemma mem_compare_iff {r' : TrackedResource} (hr : s.resources.find? key = some r)
  (hr' : s'.resources.find? key = some r') :
  key ∈ (rebuildLocalTree sha s).compare (some (rebuildLocalTree sha s')) ↔
   (rebuildLocalTree sha s).sameRoot (rebuildLocalTree sha s') = false ∧ r.hash ≠ r'.hash := by
 rw [MerkleTree.mem_compare,(rebuildLocalTree_eq sha s).1,(rebuildLocalTree_eq sha s').1,
  find?_resourceHashes,find?_resourceHashes,hr,hr',Option.map_some,Option.map_some,Ne,
  Option.some_inj]

end

theorem drift_detected_iff (sha256 : Sha256) (codec : Codec) (config config' : Config)
  (ops ops' : List Op)
  (hcollision : NoCollision sha256 (serverRun codec config ops) (serverRun codec config' ops')) :
  DriftDetected sha256 (serverRun codec config ops) (serverRun codec config' ops') ↔
   HashesTellApart (serverRun codec config ops) (serverRun codec config' ops') := by
 have hs := keysOfResources_serverRun codec config ops
 have hs' := keysOfResources_serverRun codec config' ops'
 refine forall_congr' fun key => forall_congr' fun r => forall_congr' fun r' =>
  imp_congr_right fun hr => ?_
 rw [mem_compare_iff hr.1 hr.2.1,Bool.eq_false_iff,Ne, sameRoot_iff hs hs' hcollision hr.1 hr.2.1]
 exact and_comm

def hashedChange (data : Bytes) (hash : String) : ResourceChange :=
 { sampleChange "1" (set ∅ "c" 1) .created sampleKey data 10 "c" with
   resourceHash := hash }

def hashedServer (member : String) (data : Bytes) (hash : String) : Server :=
 serverRun emptyObjectCodec (sampleConfig member .lastWriterWins)
  [.handleResourceChange "c" (hashedChange data hash) 11 12]

/-- SHA-256 on the texts that are hashed for the sample key with the hashes `v1` and `v2` and with
none. -/
def sampleSha256 (x : List Octet) : Fin 32 → Octet :=
 if x = octets "ProxyRoute/default/webv1" then
  ![180,207,180,253,210,160,222,96,180,222,5,117,81,88,213,99,242,138,244,52,
   96,46,93,169,126,116,152,96,245,78,177,167]
 else if x = octets "ProxyRoute/default/webv2" then
  ![8,189,139,189,225,28,170,28,133,26,86,225,111,67,17,231,157,51,15,76,193,
   56,153,129,21,12,224,208,126,93,22,45]
 else
  ![152,194,123,153,194,105,57,162,134,58,117,84,208,187,75,120,172,148,198,
   106,164,232,38,211,231,165,204,111,134,37,104,231]

lemma serverContent_hashedServer (mem : String) (data : Bytes) (hash : String) :
  serverContent (hashedServer mem data hash) =
   leaf (octets sampleKey.string ++ octets hash) merkleTreeDepth := by
 have hk : (resourceHashes (hashedServer mem data hash)).keys = [sampleKey.string] := rfl
 have hf : (resourceHashes (hashedServer mem data hash)).find? sampleKey.string = some hash := rfl
 rw [serverContent,hk,sortKeys,mergeSort_singleton,merkleTreeDepth,treeContent,
  if_pos (by decide),leafText,flatMap_singleton,hf]
 rfl

theorem received_drift_detected :
  DriftDetected sampleSha256 (hashedServer "a" [1] "v1") (hashedServer "b" [2] "v2") := by
 have hdi : octets sampleKey.string ++ octets "v1" ≠ octets sampleKey.string ++ octets "v2" := by
  decide +kernel
 refine (drift_detected_iff sampleSha256 emptyObjectCodec _ _ _ _ ?_).mpr ?_
 · have hh : nodeHash sampleSha256 (octets sampleKey.string ++ octets "v1") ≠
     nodeHash sampleSha256 (octets sampleKey.string ++ octets "v2") := by
    decide +kernel
   change NoCollision sampleSha256 (hashedServer "a" [1] "v1") (hashedServer "b" [2] "v2")
   rw [NoCollision,serverContent_hashedServer,serverContent_hashedServer,texts_leaf,texts_leaf]
   rintro x (rfl | rfl) y (rfl | rfl) h
   · rfl
   · exact absurd h hh
   · exact absurd h.symm hh
   · rfl
 · change HashesTellApart (hashedServer "a" [1] "v1") (hashedServer "b" [2] "v2")
   rintro key r r' ⟨hr,hr',-⟩
   have hk : key = sampleKey.string := by
    by_contra hn
    have ho : (hashedServer "a" [1] "v1").resources.find? key = none := find?_set_ne ∅ _ hn
    rw [ho] at hr
    cases hr
   subst hk
   cases hr
   cases hr'
   refine ⟨by decide,?_⟩
   rw [serverContent_hashedServer,serverContent_hashedServer]
   intro h
   exact hdi (Sum.inl.inj h)

def recordingServer (member : String) (data : Bytes) : Server :=
 serverRun emptyObjectCodec (sampleConfig member .lastWriterWins)
  [.recordLocalChange "1" sampleKey .created data ∅ 10 11]

lemma serverContent_recordingServer (mem : String) (data : Bytes) :
  serverContent (recordingServer mem data) = leaf (octets sampleKey.string) merkleTreeDepth := by
 have hk : (resourceHashes (recordingServer mem data)).keys = [sampleKey.string] := rfl
 have hf : (resourceHashes (recordingServer mem data)).find? sampleKey.string = some "" := rfl
 rw [serverContent,hk,sortKeys,mergeSort_singleton,merkleTreeDepth,treeContent,
  if_pos (by decide),leafText,flatMap_singleton,hf]
 exact congrArg (leaf · 4) (append_nil _)

/-- Two members record different data for a key, both without a hash, and the comparison does not
report it. -/
theorem recorded_drift_is_missed :
  NoCollision sampleSha256 (recordingServer "a" [1]) (recordingServer "b" [2]) ∧
   ¬ DriftDetected sampleSha256 (recordingServer "a" [1]) (recordingServer "b" [2]) := by
 constructor
 · rw [NoCollision,serverContent_recordingServer,serverContent_recordingServer,
    texts_leaf,Set.union_self]
   exact Set.injOn_singleton _ _
 · intro h
   obtain ⟨r,r',hr,hh⟩ : ∃ r r', Drifted (recordingServer "a" [1])
     (recordingServer "b" [2]) sampleKey.string r r' ∧ r.hash = r'.hash :=
    ⟨_,_,⟨rfl,rfl,by decide⟩,rfl⟩
   have hm := h sampleKey.string r r' hr
   exact ((mem_compare_iff hr.1 hr.2.1).mp hm).2 hh

end NovaEdge.Federation
