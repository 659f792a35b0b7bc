import NovaEdge.FederationRun

/-! The server clock as an upper bound of everything the server stores. Merging two versions
advances the own entry of the merged clock only, so the bound needs every merge to find the server's
own counter ahead of both versions. -/
namespace NovaEdge.Federation
open Server VectorClock

def ClockDominates (s : Server) : Prop :=
 ∀ k e, (s.register k).Holds e → e.clock.get ≤ s.vectorClock.get

def ClockSafe (codec : Codec) (s : Server) : Op → Prop
 | .recordLocalChange .. => s.vectorClock.get s.config.localMember < maxInt64
 | .handleResourceChange _ change _ _ =>
  s.config.conflictResolutionStrategy = .merge →
  ∀ r, (s.register change.key.string).live = some r →
   r.vectorClock.concurrent change.vectorClock = true →
   Mergeable codec r.data change.resourceData →
   r.vectorClock.get s.config.localMember < s.vectorClock.get s.config.localMember ∧
    change.vectorClock.get s.config.localMember < s.vectorClock.get s.config.localMember
 | _ => True

structure Register.Below (g : Register) (b : String → ℤ) : Prop where
 live : ∀ r, g.live = some r → r.vectorClock.get ≤ b
 tomb : ∀ t, g.tomb = some t → t.vectorClock.get ≤ b
 parked : ∀ c, g.parked = some c → c.remoteVersion.vectorClock.get ≤ b

structure ClockBound (s : Server) : Prop where
 nonneg : 0 ≤ s.vectorClock.get
 below : ∀ k, (s.register k).Below s.vectorClock.get

namespace Register.Below
variable {g : Register} {b b' : String → ℤ}

variable (h : g.Below b)
include h

lemma mono (hb : b ≤ b') : g.Below b' :=
 ⟨fun r hr => (h.live r hr).trans hb,fun t ht => (h.tomb t ht).trans hb,
  fun c hc => (h.parked c hc).trans hb⟩

lemma put {r : TrackedResource} (hr : r.vectorClock.get ≤ b) : (g.put r).Below b := by
 refine ⟨?_,h.tomb,h.parked⟩
 intro r' hr'
 exact Option.some.inj hr' ▸ hr

lemma receipt {co : Codec} {cfg : Config} {ch : ResourceChange} {d m : Instant}
  {g' : Register} (hb : ch.vectorClock.get ≤ b)
  (hm : ∀ r merged, g.live = some r → r.vectorClock.concurrent ch.vectorClock = true →
   cfg.conflictResolutionStrategy = .merge → mergeResources co cfg m r ch.tracked = .ok merged →
   merged.vectorClock.get ≤ b) (hg : Receipt co cfg g ch d m g') : g'.Below b := by
 cases hg with
 | ignored => exact h
 | stored =>
  refine ⟨?_,by simp,h.parked⟩
  intro r hr
  exact Option.some.inj hr ▸ hb
 | deleted =>
  refine ⟨by simp,?_,h.parked⟩
  intro t ht
  exact Option.some.inj ht ▸ hb
 | remoteWins => exact h.put hb
 | merged r merged hl hc hs ho => exact h.put (hm r merged hl hc hs ho)
 | parked =>
  refine ⟨h.live,h.tomb,?_⟩
  intro c hc
  exact Option.some.inj hc ▸ hb

lemma resolve (ul : Bool) : (g.resolve ul).Below b := by
 unfold Register.resolve
 cases hp : g.parked with
 | none => exact h
 | some c =>
  refine ⟨?_,h.tomb,by simp⟩
  intro r hr
  cases ul with
  | true => exact h.live r hr
  | false => exact Option.some.inj hr ▸ h.parked c hp

end Register.Below

lemma mergeMap_le {a c : VectorClock} {m : String} {x : ℤ} (ha : a.get m ≤ x)
  (hc : c.get m ≤ x) : (a.mergeMap c).get m ≤ x := by
 rw [get_mergeMap]
 unfold VectorClock.get at hc
 cases hf : c.find? m with
 | none => exact ha
 | some v =>
  rw [hf] at hc
  exact max_le ha hc

lemma increment_mergeMap_le {a c b : VectorClock} {own : String} (ha : a.get ≤ b.get)
  (hc : c.get ≤ b.get) (ho : a.get own < b.get own) (hco : c.get own < b.get own) :
  ((a.mergeMap c).increment own).get ≤ b.get := by
 intro m
 by_cases hm : m = own
 · subst hm
   have hl : (a.mergeMap c).get m ≤ b.get m - 1 := mergeMap_le (by omega) (by omega)
   have hma := b.get_le_maxInt64 m
   rw [get_increment_self (by omega)]
   change (a.mergeMap c).get m+1 ≤ b.get m
   omega
 · rw [get_increment_ne _ hm]
   exact mergeMap_le (ha m) (hc m)

lemma clockBound_newServer (cfg : Config) : ClockBound (newServer cfg) := by
 constructor
 · have hl : VectorClock.get ∅ < (newServer cfg).vectorClock.get :=
    lt_increment (by rw [get_empty]; decide)
   exact hl.le
 · intro k
   exact ⟨by simp,by simp,by simp⟩

variable {s : Server}

lemma clockBound_recordLocalChange (h : ClockBound s) (id : String) (key : ResourceKey)
  (t : ChangeType) (data : Bytes) (lbs : KeyedMap String String) (sp sto : Instant)
  (hm : s.vectorClock.get s.config.localMember < maxInt64) :
  ClockBound (s.recordLocalChange id key t data lbs sp sto) := by
 have hl := lt_increment hm
 constructor
 · rw [vectorClock_recordLocalChange]
   exact h.nonneg.trans hl.le
 · intro k
   have ho := (h.below k).mono hl.le
   rw [register_recordLocalChange,vectorClock_recordLocalChange]
   split_ifs with hk
   · refine ⟨?_,?_,?_⟩
     · intro r hr
       exact (congrArg VectorClock.get
        (record_localEntry s (s.register k) id key t data lbs sp sto (e := .live r) hr)).le
     · intro u hu
       exact (congrArg VectorClock.get
        (record_localEntry s (s.register k) id key t data lbs sp sto (e := .tomb u) hu)).le
     · cases t <;> exact ho.parked
   · exact ho

variable {codec : Codec}

lemma clockBound_handleResourceChange (h : ClockBound s) (p : String) (ch : ResourceChange)
  (d m : Instant) (hsa : ClockSafe codec s (.handleResourceChange p ch d m)) :
  ClockBound (s.handleResourceChange codec p ch d m).1 := by
 have hl := s.vectorClock.le_mergeMap ch.vectorClock
 have ha := mergeMap_ge h.nonneg ch.vectorClock
 constructor
 · rw [vectorClock_handleResourceChange]
   exact h.nonneg.trans hl
 · intro k
   have ho := (h.below k).mono hl
   rw [register_handleResourceChange,vectorClock_handleResourceChange]
   split_ifs with hk
   · refine ho.receipt ha ?_ (Register.receive_receipt codec s.config _ ch d m)
     intro r mgd hli hc hs hok
     obtain ⟨hm,-,hcl⟩ := mergeResources_ok hok
     subst hk
     obtain ⟨hr,hh⟩ := hsa hs r hli hc hm
     have hw := hl s.config.localMember
     rw [hcl]
     exact increment_mergeMap_le (ho.live r hli) ha (hr.trans_le hw) (hh.trans_le hw)
   · exact ho

lemma clockBound_step (h : ClockBound s) (op : Op) (ha : ClockSafe codec s op) :
  ClockBound (s.step codec op) := by
 cases op with
 | recordLocalChange id key t data labels stamp stored =>
  exact clockBound_recordLocalChange h id key t data labels stamp stored ha
 | handleResourceChange p change d m => exact clockBound_handleResourceChange h p change d m ha
 | resolveConflict keyStr useLocal =>
  constructor
  · exact (vectorClock_resolveConflict s keyStr useLocal).symm ▸ h.nonneg
  · intro k
    change Register.Below ((s.resolveConflict keyStr useLocal).1.register k)
     (s.resolveConflict keyStr useLocal).1.vectorClock.get
    rw [register_resolveConflict,vectorClock_resolveConflict]
    split_ifs
    · exact (h.below k).resolve useLocal
    · exact h.below k
 | cleanupTombstones now =>
  refine ⟨h.nonneg,?_⟩
  intro k
  have hr := register_cleanupTombstones s now k
  refine hr.symm ▸ ⟨(h.below k).live,?_,(h.below k).parked⟩
  intro t ht
  exact (h.below k).tomb t (filter_eq_some_iff.mp ht).1
 | updateConfig config | openOutbox p | closeOutbox p => exact ⟨h.nonneg,h.below⟩
 | sendNext p =>
  constructor
  · exact (vectorClock_sendNext s p).symm ▸ h.nonneg
  · intro k
    change Register.Below ((s.sendNext p).1.register k) (s.sendNext p).1.vectorClock.get
    rw [register_sendNext,vectorClock_sendNext]
    exact h.below k

lemma clockBound_reachable (h : ((serverSystem codec).restrict (ClockSafe codec)).Reachable s) :
  ClockBound s := by
 refine h.invariant ?_ ?_
 · rintro s ⟨cfg,rfl⟩
   exact clockBound_newServer cfg
 · rintro s op t hs ⟨rfl,ha⟩
   exact clockBound_step hs op ha

lemma ClockBound.dominates (h : ClockBound s) : ClockDominates s := by
 intro k e he
 cases e with
 | live r => exact (h.below k).live r he
 | tomb t => exact (h.below k).tomb t he

/-- The clock bounds every stored version, so that a peer with the old version applies a change. -/
theorem server_clock_upper_bound (codec : Codec) (s : Server)
  (h : ((serverSystem codec).restrict (ClockSafe codec)).Reachable s) : ClockDominates s ∧
  ∀ id key t data labels stamp stored,
   ClockSafe codec s (.recordLocalChange id key t data labels stamp stored) →
   let entry := s.localEntry id key t data labels stamp stored
   (∀ e, (s.register key.string).Holds e → e.clock.happenedBefore entry.vectorClock = true) ∧
   ∀ (peer : Register) (config : Config) (r : TrackedResource) (d m : Instant),
    peer.live = some r → (s.register key.string).Holds (.live r) →
    peer.receive codec config (changeEntryToProto entry) d m =
     peer.apply (changeEntryToProto entry) := by
 have hb := clockBound_reachable h
 refine ⟨hb.dominates,?_⟩
 intro id key t data labels stamp stored hsa entry
 have ha : ∀ e, (s.register key.string).Holds e → e.clock.get < entry.vectorClock.get := by
  intro e he
  have hl := hb.dominates key.string e he
  have ht := lt_increment hsa
  rw [vectorClock_localEntry]
  exact hl.trans_lt ht
 constructor
 · intro e he
   rw [happenedBefore_iff]
   exact ha e he
 · intro peer config r d m hp hr
   exact receive_of_lt codec config d m hp (ha (.live r) hr)

def emptyObject : Bytes := [123,125]

def emptyObjectCodec : Codec where
 unmarshalObject b := if b = emptyObject then some [] else none
 marshalObject
  | [] => some emptyObject
  | _ => none
 unmarshalServiceEndpoints _ := none

def sampleConfig (member : String) (strategy : ConflictStrategy) : Config :=
 ⟨member,strategy,3600,[],100⟩

def sampleKey : ResourceKey := ⟨"ProxyRoute","default","web"⟩

def sampleChange (id : String) (clock : VectorClock) (t : WireChangeType) (key : ResourceKey)
  (data : Bytes) (timestamp : Instant) (origin : String) : ResourceChange :=
 ⟨id,clock,t,key.kind,key.ns,key.name,"",data,"",timestamp,origin,∅⟩

def mergeAheadRun : List Op := [.recordLocalChange "1" sampleKey .created emptyObject ∅ 10 11,
   .handleResourceChange "b"
    (sampleChange "2" (KeyedMap.set ∅ "b" 2) .created sampleKey emptyObject 12 "b") 13 14]

/-- The next local change of the key only repeats the clock of the version it replaces. -/
theorem merged_version_ahead_of_server_clock :
  ∃ s, (serverSystem emptyObjectCodec).Reachable s ∧ ¬ ClockDominates s ∧
   ∃ e, (s.register sampleKey.string).Holds e ∧ e.clock.happenedBefore
     (s.localEntry "3" sampleKey .updated emptyObject ∅ 20 21).vectorClock = false := by
 refine ⟨serverRun emptyObjectCodec (sampleConfig "a" .merge) mergeAheadRun,
  reachable_serverRun ..,?_,.live _,rfl,by decide⟩
 intro ho
 have hl := ho sampleKey.string (.live _) rfl "a"
 cases hl

def mergeBehindRun : List Op := .recordLocalChange "1" sampleKey .created emptyObject ∅ 10 11 ::
 .recordLocalChange "2" ⟨"ProxyGateway","default","edge"⟩ .created emptyObject ∅ 12 13 ::
 mergeAheadRun.tail

theorem server_clock_upper_bound_after_merge :
  let s := serverRun emptyObjectCodec (sampleConfig "a" .merge) mergeBehindRun
  s.vectorClock.get "a" = 3 ∧ s.vectorClock.get "b" = 2 ∧ ClockDominates s := by
 have ha : Along (step emptyObjectCodec) (ClockSafe emptyObjectCodec)
   (newServer (sampleConfig "a" .merge)) mergeBehindRun := by
  refine ⟨?_,?_,?_,trivial⟩
  · change _ < maxInt64
    decide
  · change _ < maxInt64
    decide
  · intro _ r hr _ _
    cases hr
    decide
 exact ⟨by decide,by decide,
  (server_clock_upper_bound emptyObjectCodec _ (reachable_serverRun_of_along ha)).1⟩

end NovaEdge.Federation
