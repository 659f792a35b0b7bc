import NovaEdge.FederationClockBound

/-! Causal regression. A register regresses when it takes an entry whose clock is strictly
before that of an entry it held. The live version guards the register against this; the
tombstone does not, and neither does the resolution of a parked conflict. -/
namespace NovaEdge.Federation
open KeyedMap VectorClock

def Regresses (g g' : Register) : Prop :=
 ∃ old new, g.Holds old ∧ g'.Holds new ∧ ¬ g.Holds new ∧ new.clock.get < old.clock.get

/-- The change enters the register without having been compared with its tombstone. -/
def Unchecked (config : Config) (g : Register) (change : ResourceChange) : Prop :=
 match g.live with
 | none => change.changeType = .created ∨ change.changeType = .updated ∨
   change.changeType = .deleted
 | some r => config.conflictResolutionStrategy = .lastWriterWins ∧
   r.vectorClock.concurrent change.vectorClock = true ∧ r.lastModified < change.timestamp

/-- By more than the one step that the next local change takes. -/
def RunsAhead (vc : VectorClock) (own : String) (version : VectorClock) : Prop :=
 vc.get own < version.get own ∧ (∀ m, m ≠ own → vc.get m ≤ version.get m) ∧
  ¬ (version.get own = vc.get own+1 ∧ ∀ m, m ≠ own → version.get m = vc.get m)

def CausallySafe (codec : Codec) (s : Server) : Op → Prop
 | .recordLocalChange _ key _ _ _ _ _ =>
  ∀ e, (s.register key.string).Holds e → s.vectorClock.get s.config.localMember < maxInt64 ∧
    ¬ RunsAhead s.vectorClock s.config.localMember e.clock
 | .handleResourceChange _ change _ _ =>
  (∀ t, (s.register change.key.string).tomb = some t →
   Unchecked s.config (s.register change.key.string) change →
   ¬ change.vectorClock.get < t.vectorClock.get) ∧
  (s.config.conflictResolutionStrategy = .merge →
   ∀ r, (s.register change.key.string).live = some r →
    r.vectorClock.concurrent change.vectorClock = true →
    Mergeable codec r.data change.resourceData →
    (r.vectorClock.mergeMap change.vectorClock).get s.config.localMember < maxInt64)
 | .resolveConflict keyStr useLocal =>
  useLocal = false → ∀ c e, (s.register keyStr).parked = some c → (s.register keyStr).Holds e →
   ¬ c.remoteVersion.vectorClock.get < e.clock.get
 | _ => True

lemma increment_lt_iff {vc ver : VectorClock} {own : String} (h : vc.get own < maxInt64) :
  (vc.increment own).get < ver.get ↔ RunsAhead vc own ver := by
 have hw := get_increment_self h
 have hn : ∀ m, m ≠ own → (vc.increment own).get m = vc.get m := fun m hm => get_increment_ne vc hm
 constructor
 · intro hl
   refine ⟨?_,?_,?_⟩
   · have hle : (vc.increment own).get own ≤ ver.get own := hl.le own
     omega
   · intro m hm
     rw [← hn m hm]
     exact hl.le m
   · intro ⟨ho,hr⟩
     apply hl.ne
     funext m
     by_cases hm : m = own
     · rw [hm,hw,ho]
     · rw [hn m hm,hr m hm]
 · intro ⟨ho,hr,hmo⟩
   refine lt_of_le_of_ne ?_ ?_
   · intro m
     by_cases hm : m = own
     · subst hm
       change (vc.increment m).get m ≤ ver.get m
       omega
     · rw [hn m hm]
       exact hr m hm
   · intro hq
     apply hmo
     constructor
     · rw [← hq,hw]
     · intro m hm
       rw [← hq,hn m hm]

def Register.Ordered (g : Register) : Prop :=
 ∀ r t, g.live = some r → g.tomb = some t → ¬ r.vectorClock.get < t.vectorClock.get

def Server.Ordered (s : Server) : Prop := ∀ k, (s.register k).Ordered

lemma not_regresses_of_held {g g' : Register} (h : ∀ e, g'.Holds e → g.Holds e) :
  ¬ Regresses g g' := by
 intro ⟨_,new,_,hn,ho,_⟩
 exact ho (h new hn)

lemma not_regresses_self (g : Register) : ¬ Regresses g g := not_regresses_of_held fun _ h => h

/-- A single new entry regresses exactly when some held entry is strictly after it. -/
lemma not_regresses_of {g g' : Register} (vc : VectorClock)
  (hne : ∀ e, g'.Holds e → g.Holds e ∨ e.clock = vc)
  (hl : ∀ e, g.Holds e → ¬ vc.get < e.clock.get) : ¬ Regresses g g' := by
 intro ⟨old,new,ho,hn,hno,ht⟩
 rcases hne new hn with hh | hv
 · exact hno hh
 · exact hl old ho (hv ▸ ht)

lemma holds_put {g : Register} {r : TrackedResource} {e : Entry} (h : (g.put r).Holds e) :
  g.Holds e ∨ e.clock = r.vectorClock := by
 cases e with
 | live r' => exact .inr (congrArg TrackedResource.vectorClock (Option.some.inj h).symm)
 | tomb t => exact .inl h

section
variable {co : Codec} {cfg : Config} {g g' : Register} {ch : ResourceChange}
 {d m : Instant}

lemma unchecked_of_no_live (hl : g.live = none) (ht : ch.changeType = .created ∨
  ch.changeType = .updated ∨ ch.changeType = .deleted) : Unchecked cfg g ch := by
 unfold Unchecked
 rw [hl]
 exact ht

lemma unchecked_of_remoteWins {r : TrackedResource} (hl : g.live = some r)
  (hs : cfg.conflictResolutionStrategy = .lastWriterWins)
  (hc : r.vectorClock.concurrent ch.vectorClock = true)
  (ht : r.lastModified < ch.timestamp) : Unchecked cfg g ch := by
 unfold Unchecked
 rw [hl]
 exact ⟨hs,hc,ht⟩

lemma not_before_held (ho : g.Ordered)
  (hli : ∀ r, g.live = some r → r.vectorClock.get < ch.vectorClock.get)
  (hto : ∀ t, g.live = none → g.tomb = some t → ¬ ch.vectorClock.get < t.vectorClock.get)
  (e : Entry) (he : g.Holds e) : ¬ ch.vectorClock.get < e.clock.get := by
 cases e with
 | live r => exact lt_asymm (hli r he)
 | tomb t =>
  cases hl : g.live with
  | none => exact hto t hl he
  | some r =>
   intro ht
   exact ho r t hl he ((hli r hl).trans ht)

lemma lt_merged {r mgd : TrackedResource}
  (hmax : (r.vectorClock.mergeMap ch.vectorClock).get cfg.localMember < maxInt64)
  (ho : Server.mergeResources co cfg m r ch.tracked = .ok mgd) :
  r.vectorClock.get < mgd.vectorClock.get := by
 obtain ⟨-,-,hc⟩ := mergeResources_ok ho
 rw [hc]
 exact (le_mergeMap _ _).trans_lt (lt_increment hmax)

variable (hto : ∀ t, g.tomb = some t → Unchecked cfg g ch →
  ¬ ch.vectorClock.get < t.vectorClock.get)
 (hmax : cfg.conflictResolutionStrategy = .merge → ∀ r, g.live = some r →
  r.vectorClock.concurrent ch.vectorClock = true →
  Mergeable co r.data ch.resourceData →
  (r.vectorClock.mergeMap ch.vectorClock).get cfg.localMember < maxInt64)

include hto hmax

lemma receipt_not_regresses (ho : g.Ordered) (hg : Register.Receipt co cfg g ch d m g') :
  ¬ Regresses g g' := by
 cases hg with
 | ignored => exact not_regresses_self g
 | stored ht hl =>
  refine not_regresses_of ch.vectorClock ?_ (not_before_held ho hl ?_)
  · intro e he
    cases e with
    | live r => exact .inr (congrArg TrackedResource.vectorClock (Option.some.inj he).symm)
    | tomb t => exact absurd he (by simp [Register.Holds])
  · intro t hn hm
    exact hto t hm (unchecked_of_no_live hn (by tauto))
 | deleted ht hl =>
  refine not_regresses_of ch.vectorClock ?_ (not_before_held ho hl ?_)
  · intro e he
    cases e with
    | live r => exact absurd he (by simp [Register.Holds])
    | tomb t => exact .inr (congrArg Tombstone.vectorClock (Option.some.inj he).symm)
  · intro t hn hm
    exact hto t hm (unchecked_of_no_live hn (by tauto))
 | remoteWins r hl hc hs ht =>
  refine not_regresses_of ch.vectorClock (fun e he => holds_put he) ?_
  intro e he
  cases e with
  | live r' =>
   obtain rfl := mem_unique hl he
   exact ((concurrent_iff _ _).mp hc).2
  | tomb t => exact hto t he (unchecked_of_remoteWins hl hs hc ht)
 | merged r merged hl hc hs hk =>
  have hlt := lt_merged (hmax hs r hl hc (mergeResources_ok hk).1) hk
  refine not_regresses_of merged.vectorClock (fun e he => holds_put he) ?_
  intro e he
  cases e with
  | live r' =>
   obtain rfl := mem_unique hl he
   exact lt_asymm hlt
  | tomb t =>
   intro hb
   exact ho r t hl he (hlt.trans hb)
 | parked r hl hc =>
  apply not_regresses_of_held
  intro e he
  cases e with
  | live r' | tomb t => exact he

lemma receipt_ordered (ho : g.Ordered) (hg : Register.Receipt co cfg g ch d m g') : g'.Ordered := by
 intro r' t hr' ht'
 cases hg with
 | ignored | parked => exact ho r' t hr' ht'
 | stored => cases ht'
 | deleted => cases hr'
 | remoteWins r hl hc hs ht =>
  cases hr'
  exact hto t ht' (unchecked_of_remoteWins hl hs hc ht)
 | merged r merged hl hc hs hk =>
  cases hr'
  intro hb
  have hlt := lt_merged (hmax hs r hl hc (mergeResources_ok hk).1) hk
  exact ho r t hl ht' (hlt.trans hb)

end

lemma resolve_not_regresses {g : Register} {ul : Bool}
  (ha : ul = false → ∀ c e, g.parked = some c → g.Holds e →
   ¬ c.remoteVersion.vectorClock.get < e.clock.get) : ¬ Regresses g (g.resolve ul) := by
 unfold Register.resolve
 cases hp : g.parked with
 | none => exact not_regresses_self g
 | some c =>
  cases ul with
  | true =>
   apply not_regresses_of_held
   intro e he
   cases e with
   | live r | tomb t => exact he
  | false =>
   refine not_regresses_of c.remoteVersion.vectorClock ?_ (fun e => ha rfl c e hp)
   intro e he
   cases e with
   | live r => exact .inr (congrArg TrackedResource.vectorClock (Option.some.inj he).symm)
   | tomb t => exact .inl he

lemma resolve_ordered {g : Register} {ul : Bool} (ho : g.Ordered)
  (ha : ul = false → ∀ c e, g.parked = some c → g.Holds e →
   ¬ c.remoteVersion.vectorClock.get < e.clock.get) : (g.resolve ul).Ordered := by
 unfold Register.resolve
 cases hp : g.parked with
 | none => exact ho
 | some c =>
  intro r t hr ht
  cases ul with
  | true => exact ho r t hr ht
  | false =>
   cases hr
   exact ha rfl c (.tomb t) hp ht

lemma record_ordered (s : Server) (g : Register) (id : String) (key : ResourceKey)
  (t : ChangeType) (data : Bytes) (lbs : KeyedMap String String) (sp sto : Instant) :
  (g.record (s.localEntry id key t data lbs sp sto)).Ordered := by
 intro r u hr hu
 have hl := record_localEntry s g id key t data lbs sp sto (e := .live r) hr
 have hto := record_localEntry s g id key t data lbs sp sto (e := .tomb u) hu
 have hq : r.vectorClock = u.vectorClock := hl.trans hto.symm
 rw [hq]
 exact lt_irrefl _

lemma cleaned_not_regresses (g : Register) (keep : Tombstone → Bool) :
  ¬ Regresses g { g with tomb := g.tomb.filter keep } := by
 apply not_regresses_of_held
 intro e he
 cases e with
 | live r => exact he
 | tomb t => exact (filter_eq_some_iff.mp he).1

lemma step_not_regresses {co : Codec} {s : Server} (ho : s.Ordered)
  (op : Op) (ha : CausallySafe co s op) (k : String) :
  ¬ Regresses (s.register k) ((s.step co op).register k) ∧ ((s.step co op).register k).Ordered := by
 have hst := registerStep co s op k
 generalize (s.step co op).register k = g' at hst ⊢
 cases hst with
 | unchanged => exact ⟨not_regresses_self _,ho k⟩
 | recorded id key t data labels stamp stored hk =>
  refine ⟨?_,record_ordered s _ id key t data labels stamp stored⟩
  refine not_regresses_of (s.vectorClock.increment s.config.localMember) ?_ ?_
  · intro e he
    exact .inr (record_localEntry s _ id key t data labels stamp stored he)
  · intro e he
    obtain ⟨hmax,hh⟩ := ha e (hk ▸ he)
    rw [increment_lt_iff hmax]
    exact hh
 | received p change d m hk =>
  subst hk
  have hg := Register.receive_receipt co s.config (s.register change.key.string) change d m
  exact ⟨receipt_not_regresses ha.1 ha.2 (ho _) hg,receipt_ordered ha.1 ha.2 (ho _) hg⟩
 | resolved useLocal => exact ⟨resolve_not_regresses ha,resolve_ordered (ho k) ha⟩
 | cleaned now =>
  refine ⟨cleaned_not_regresses _ _,?_⟩
  intro r t hr ht
  exact ho k r t hr (filter_eq_some_iff.mp ht).1

lemma ordered_reachable {co : Codec} {s : Server}
  (h : ((serverSystem co).restrict (CausallySafe co)).Reachable s) : s.Ordered := by
 refine h.invariant ?_ ?_
 · rintro s ⟨config,rfl⟩ k r t hr _
   cases hr
 · rintro s op t hs ⟨rfl,ha⟩ k
   exact (step_not_regresses hs op ha k).2

/-- In every run of safe steps no register ever takes an entry strictly before one it held. -/
theorem no_causal_regression (codec : Codec) (s : Server)
  (h : ((serverSystem codec).restrict (CausallySafe codec)).Reachable s) (op : Op)
  (hsafe : CausallySafe codec s op) (k : String) :
  ¬ Regresses (s.register k) ((s.step codec op).register k) :=
 (step_not_regresses (ordered_reachable h) op hsafe k).1

def deletionFirst : List Op := [.handleResourceChange "b"
  (sampleChange "2" (set (set ∅ "a" 2) "b" 2) .deleted sampleKey [] 20 "b")
  21 22]

def lateCreation : Op := .handleResourceChange "a"
  (sampleChange "1" (set ∅ "a" 2) .created sampleKey emptyObject 10 "a") 23 24

/-- The creation, causally older than the tombstone, brings the key back. -/
theorem late_creation_regresses : ∃ s, (serverSystem emptyObjectCodec).Reachable s ∧
      Regresses (s.register sampleKey.string)
       ((s.step emptyObjectCodec lateCreation).register sampleKey.string) := by
 refine ⟨serverRun emptyObjectCodec (sampleConfig "c" .lastWriterWins) deletionFirst,
  reachable_serverRun ..,.tomb _,.live _,rfl,rfl,?_,?_⟩
 · intro hl
   exact some_ne_none _ (Eq.symm hl)
 · rw [← happenedBefore_iff]
   decide

theorem no_causal_regression_recreation :
  let s := serverRun emptyObjectCodec (sampleConfig "c" .lastWriterWins) deletionFirst
  let op := Op.handleResourceChange "b" (sampleChange "3"
   (set (set ∅ "a" 2) "b" 3) .created sampleKey emptyObject 30 "b") 31 32
  ¬ Regresses (s.register sampleKey.string)
   ((s.step emptyObjectCodec op).register sampleKey.string) := by
 intro s op
 have hde : Along (Server.step emptyObjectCodec)
   (CausallySafe emptyObjectCodec) (newServer (sampleConfig "c" .lastWriterWins))
   deletionFirst := by
  refine ⟨⟨?_,?_⟩,trivial⟩
  · intro t ht
    exact absurd (Eq.symm ht) (some_ne_none t)
  · intro hs
    exact ConflictStrategy.noConfusion hs
 refine no_causal_regression emptyObjectCodec s (reachable_serverRun_of_along hde) op ⟨?_,?_⟩ _
 · intro t ht _
   cases ht
   rw [← happenedBefore_iff]
   decide
 · intro hs
   exact ConflictStrategy.noConfusion hs

end NovaEdge.Federation
