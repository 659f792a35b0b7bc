import Mathlib.Data.List.DropRight
import Mathlib.Tactic

/-! The trust bundle of the mesh tunnels: `UpdateCertificate` rotates it, the tunnel server reads
it at every handshake, and the tunnel pool keeps the one it found at `Start`. -/
namespace NovaEdge.Mesh
open List Option

structure PemBlock (C : Type) where
 type : String
 certificate : Option C

/-- `x509KeyPair` with its leaf parsed; `pemBlocks` is what repeated `pem.Decode` gives. -/
structure TrustLibrary (B K C : Type) where
 x509KeyPair : B → B → Option K
 pemBlocks : B → List (PemBlock C)

structure CertificateUpdate (B : Type) where
 (certPEM keyPEM caCertPEM : B)

structure TrustProvider (B K C : Type) where
 cert : Option K := none
 caCertPool : Option (List C) := none
 lastPEM : Option (B × B) := none

variable {B K C : Type} (lib : TrustLibrary B K C)

/-- A block that does not parse fails the whole bundle, and so does a bundle without any. -/
def TrustLibrary.caPool (caCertPEM : B) : Option (List C) := do
 let blocks := (lib.pemBlocks caCertPEM).filter fun block => block.type = "CERTIFICATE"
 let cas ← blocks.mapM PemBlock.certificate
 if cas.isEmpty then none else some cas

inductive TrustOp (B : Type)
 | update (u : CertificateUpdate B)
 | start

/-- The bundle of a call that succeeds. -/
def TrustLibrary.bundleOf (u : CertificateUpdate B) : Option (List C) :=
 (lib.x509KeyPair u.certPEM u.keyPEM).bind fun _ => lib.caPool u.caCertPEM

def TrustLibrary.latest (ops : List (TrustOp B)) : Option (List C) := ops.reverse.findSome? fun
  | .update u => lib.bundleOf u
  | .start => none

lemma latest_append_update (ops : List (TrustOp B)) (u : CertificateUpdate B) :
  lib.latest (ops ++ [.update u]) = (lib.bundleOf u).or (lib.latest ops) := by
 simp [TrustLibrary.latest,findSome?_cons]
 cases lib.bundleOf u <;> rfl

@[simp] lemma latest_append_start (ops : List (TrustOp B)) :
  lib.latest (ops ++ [.start]) = lib.latest ops := by simp [TrustLibrary.latest]

variable [DecidableEq B]

def TrustProvider.updateCertificate (p : TrustProvider B K C) (u : CertificateUpdate B) :
  Option (TrustProvider B K C) := do
 let cached := if p.lastPEM = some (u.certPEM,u.keyPEM) then p.cert else none
 let cert ← cached.or (lib.x509KeyPair u.certPEM u.keyPEM)
 let caPool ← lib.caPool u.caCertPEM
 return ⟨some cert,some caPool,some (u.certPEM,u.keyPEM)⟩

/-- The pool that the client configuration captured, once started; a nil pool is `some none`. -/
structure TunnelManager (B K C : Type) extends TrustProvider B K C where
 rootCAs : Option (Option (List C)) := none

open TunnelManager
def TunnelManager.step (m : TunnelManager B K C) : TrustOp B → TunnelManager B K C
 | .update u => { m with toTrustProvider := (m.updateCertificate lib u).getD m.toTrustProvider }
 | .start => { m with rootCAs := some m.caCertPool }

def TunnelManager.run (ops : List (TrustOp B)) : TunnelManager B K C := ops.foldl (step lib) {}

/-- A configuration without a pool has its peers verified against the roots of the system. -/
inductive TrustRoots (C : Type)
 | system
 | bundle (cas : List C)

def trustRoots : Option (List C) → TrustRoots C
 | none => .system
 | some cas => .bundle cas

/-- What the certificate of an accepted tunnel's peer is verified against; without a certificate
of its own the server completes no handshake. -/
def TunnelManager.acceptRoots (m : TunnelManager B K C) : Option (TrustRoots C) :=
 if m.rootCAs.isSome && m.cert.isSome then some (trustRoots m.caCertPool) else none

def TunnelManager.dialRoots (m : TunnelManager B K C) : Option (TrustRoots C) :=
 if m.cert.isSome then m.rootCAs.map trustRoots else none

def RotationEffective (ops : List (TrustOp B)) : Prop :=
 ∀ roots, (TunnelManager.run lib ops).acceptRoots = some roots ∨
  (TunnelManager.run lib ops).dialRoots = some roots →
  ∃ cas, lib.latest ops = some cas ∧ roots = .bundle cas

def TrustOp.isUpdate : TrustOp B → Bool
 | .update _ => true
 | .start => false

/-- The latest bundle was there when the manager was last started. -/
def StartedWithLatest (ops : List (TrustOp B)) : Prop :=
 ops.rdropWhile TrustOp.isUpdate ≠ [] → ∀ cas, lib.latest ops = some cas →
  lib.latest (ops.rdropWhile TrustOp.isUpdate) = some cas

/-- The cached pair is what the library makes of the cached texts. -/
structure TrustProvider.HoldsLatest (p : TrustProvider B K C) (latest : Option (List C)) : Prop where
 pool : p.caCertPool = latest
 cert : p.cert.isSome = latest.isSome
 cached : ∀ pem, p.lastPEM = some pem → p.cert = lib.x509KeyPair pem.1 pem.2

lemma updateCertificate_eq {p : TrustProvider B K C}
  (hc : ∀ pem, p.lastPEM = some pem → p.cert = lib.x509KeyPair pem.1 pem.2)
  (u : CertificateUpdate B) :
  p.updateCertificate lib u = (lib.x509KeyPair u.certPEM u.keyPEM).bind fun cert =>
   (lib.caPool u.caCertPEM).map fun cas => ⟨some cert,some cas,some (u.certPEM,u.keyPEM)⟩ := by
 unfold TrustProvider.updateCertificate
 split_ifs with hp
 · rw [hc _ hp]
   cases lib.x509KeyPair u.certPEM u.keyPEM <;> cases lib.caPool u.caCertPEM <;> rfl
 · cases lib.x509KeyPair u.certPEM u.keyPEM <;> cases lib.caPool u.caCertPEM <;> rfl

lemma run_append_singleton (ops : List (TrustOp B)) (op : TrustOp B) :
  run lib (ops ++ [op]) = (run lib ops).step lib op := by
 simp [run]

lemma holdsLatest_run (ops : List (TrustOp B)) :
  (run lib ops).HoldsLatest lib (lib.latest ops) := by
 induction ops using reverseRecOn with
 | nil => exact ⟨rfl,rfl,fun _ h => by cases h⟩
 | append_singleton ops op ih =>
  rw [run_append_singleton]
  cases op with
  | start => rw [latest_append_start]; exact ih
  | update u =>
   rw [latest_append_update,step,updateCertificate_eq lib ih.cached,
    TrustLibrary.bundleOf]
   cases hk : lib.x509KeyPair u.certPEM u.keyPEM with
   | none => exact ih
   | some cert => cases lib.caPool u.caCertPEM with
    | none => exact ih
    | some cas =>
     refine ⟨rfl,rfl,fun pem h => ?_⟩
     cases h
     exact hk.symm

lemma rootCAs_run (ops : List (TrustOp B)) : (run lib ops).rootCAs =
  if ops.rdropWhile TrustOp.isUpdate = [] then none
  else some (lib.latest (ops.rdropWhile TrustOp.isUpdate)) := by
 induction ops using reverseRecOn with
 | nil => rfl
 | append_singleton ops op ih =>
  rw [run_append_singleton]
  cases op with
  | update u => rwa [rdropWhile_concat_pos _ _ _ rfl]
  | start =>
   rw [rdropWhile_concat_neg _ _ _ Bool.false_ne_true,if_neg (by simp),latest_append_start,
    ← (holdsLatest_run lib ops).pool]
   rfl

/-- The tunnel server always verifies against the latest bundle; what the client dials is verified
against the bundle that was the latest at the last start. -/
theorem rotation_effective_iff (ops : List (TrustOp B)) :
  RotationEffective lib ops ↔ StartedWithLatest lib ops := by
 have hm := holdsLatest_run lib ops
 have hr := rootCAs_run lib ops
 constructor
 · intro h hne cas hl
   rw [if_neg hne] at hr
   obtain ⟨cas',hl',hb⟩ := h (trustRoots (lib.latest (ops.rdropWhile TrustOp.isUpdate)))
    (.inr (by simp [dialRoots,hm.cert,hl,hr]))
   cases hs : lib.latest (ops.rdropWhile TrustOp.isUpdate) with
   | none => simp [hs,trustRoots] at hb
   | some _ => simp_all [trustRoots]
 · intro h roots hd
   simp only [acceptRoots,dialRoots,hm.cert,hm.pool,hr] at hd
   cases hl : lib.latest ops with
   | none => simp [hl] at hd
   | some cas =>
    refine ⟨cas,rfl,?_⟩
    by_cases hne : ops.rdropWhile TrustOp.isUpdate = []
    · simp [hne] at hd
    · simpa [hl,hne,h hne cas hl,trustRoots,eq_comm] using hd

/-- Each text is its own key pair and a bundle of one certificate. -/
def plainTrust : TrustLibrary ℕ ℕ ℕ where
 x509KeyPair cert _ := some cert
 pemBlocks ca := [⟨"CERTIFICATE",some ca⟩]

/-- The manager is started before its first certificate arrives, as on every agent: it dials with
the roots of the system ever after. -/
theorem dialled_against_system_roots : ¬ RotationEffective plainTrust [.start,.update ⟨1,1,7⟩] ∧
      (run plainTrust [.start,.update ⟨1,1,7⟩]).dialRoots = some .system ∧
      (run plainTrust [.start,.update ⟨1,1,7⟩]).acceptRoots = some (.bundle [7]) := by
 refine ⟨fun h => ?_,rfl,rfl⟩
 obtain ⟨_,_,hs⟩ := h .system (.inr rfl)
 cases hs

end NovaEdge.Mesh
