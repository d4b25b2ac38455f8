import Ztunnel.Identity.Spiffe

/-!
# The trust domain of a peer

`tls/workload.rs` and `tls/certificate.rs`: a client certificate is accepted if, besides what the
base verifier checks, one of the identities among its subject alternative names is in the trust
domain of the server. The connection is attributed to the first of these identities. Where the two
part is said exactly (`peer_identity_in_trustDomain_iff`).

How a certificate is decoded from DER and what the base verifier checks are parameters (`Pki`).
-/

namespace Ztunnel.Tls

open Ztunnel.Rbac (Identity)

/-- `GeneralName`; of the other kinds nothing is used. -/
inductive GeneralName where
  | uri (uri : String)
  | other
deriving DecidableEq, Repr

/-- `X509Certificate`, of which only the subject alternative names are read. The extension may be
missing, and reading it fails if it is there twice or does not parse. -/
structure X509Certificate where
  subjectAlternativeName : Except Unit (Option (List GeneralName))
deriving Repr

/-- `CertificateDer`. -/
abbrev CertificateDer := List UInt8

/-- The errors of `verify_client_cert`. -/
inductive VerifyError (E : Type) where
  | base (error : E)
  | badEncoding
  | applicationVerificationFailure
  | sanTrustDomain (want : String) (ids : List Identity)
deriving DecidableEq, Repr

/-- What is not in the source: `X509Certificate::from_der`, and the base verifier for an end entity,
its intermediates and a time. -/
structure Pki (E : Type) where
  fromDer : CertificateDer → Option X509Certificate
  verifyClientCert : CertificateDer → List CertificateDer → ℕ → Except E Unit

variable {E : Type} (pki : Pki E)

/-- The identity of a name, if it is one. -/
def GeneralName.identity : GeneralName → Option Identity
  | .uri text => (Identity.fromStr text).toOption
  | .other => none

/-- `identities`: the URI names that are identities. -/
def identities (cert : X509Certificate) : Except Unit (List Identity) := do
  let names ← cert.subjectAlternativeName
  match names with
  | some names => pure (names.filterMap GeneralName.identity)
  | none => pure []

/-- `identity_from_connection`, for the certificates of the peer. -/
def identityFromConnection (peerCertificates : Option (List CertificateDer)) : Option Identity :=
  (peerCertificates.bind List.head?).bind fun cert ↦
    (pki.fromDer cert).bind fun cert ↦
      match identities cert with
      | .ok ids => ids.head?
      | .error () => none

/-- `TrustDomainVerifier`. -/
structure TrustDomainVerifier where
  trustDomain : Option String
deriving DecidableEq, Repr

namespace TrustDomainVerifier

/-- `TrustDomainVerifier::verify_trust_domain`. -/
def verifyTrustDomain (verifier : TrustDomainVerifier) (clientCert : CertificateDer) :
    Except (VerifyError E) Unit :=
  match verifier.trustDomain with
  | none => .ok ()
  | some want =>
    match pki.fromDer clientCert with
    | none => .error .badEncoding
    | some cert =>
      match identities cert with
      | .error () => .error .applicationVerificationFailure
      | .ok ids =>
        match ids.find? (·.trustDomain = want) with
        | some _ => .ok ()
        | none => .error (.sanTrustDomain want ids)

/-- `TrustDomainVerifier::verify_client_cert`. -/
def verifyClientCert (verifier : TrustDomainVerifier) (endEntity : CertificateDer)
    (intermediates : List CertificateDer) (now : ℕ) : Except (VerifyError E) Unit := do
  (pki.verifyClientCert endEntity intermediates now).mapError .base
  verifier.verifyTrustDomain pki endEntity

variable {pki} {verifier : TrustDomainVerifier}

/-- **What acceptance says**: the certificate decodes, and one of its identities is in the trust
domain. -/
theorem exists_identity_of_verify {want : String} (hwant : verifier.trustDomain = some want)
    {endEntity : CertificateDer} {intermediates : List CertificateDer} {now : ℕ}
    (h : verifier.verifyClientCert pki endEntity intermediates now = .ok ()) :
    ∃ cert ids, pki.fromDer endEntity = some cert ∧ identities cert = .ok ids ∧
      ∃ id ∈ ids, id.trustDomain = want := by
  have hverify : verifier.verifyTrustDomain pki endEntity = .ok () := by
    rw [verifyClientCert] at h
    rcases hbase : pki.verifyClientCert endEntity intermediates now with e | ⟨⟩
    · rw [hbase] at h
      cases h
    · rw [hbase] at h
      exact h
  simp only [verifyTrustDomain, hwant] at hverify
  rcases hcert : pki.fromDer endEntity with - | cert
  · rw [hcert] at hverify
    cases hverify
  · rcases hids : identities cert with e | ids
    · simp only [hcert, hids] at hverify
      cases hverify
    · rcases hfind : ids.find? (·.trustDomain = want) with - | id
      · simp only [hcert, hids, hfind] at hverify
        cases hverify
      · exact ⟨cert, ids, rfl, hids, id, List.mem_of_find?_eq_some hfind,
          by simpa using List.find?_some hfind⟩

end TrustDomainVerifier

variable {pki}

theorem identityFromConnection_eq {endEntity : CertificateDer} {cert : X509Certificate}
    {names : List GeneralName} (hcert : pki.fromDer endEntity = some cert)
    (hnames : cert.subjectAlternativeName = .ok (some names))
    (intermediates : List CertificateDer) :
    identityFromConnection pki (some (endEntity :: intermediates)) =
      names.findSome? GeneralName.identity := by
  have hids : identities cert = .ok (names.filterMap GeneralName.identity) := by
    rw [identities, hnames]
    rfl
  simp only [identityFromConnection, Option.bind_some, List.head?_cons, hcert, hids]
  exact List.head?_filterMap

/-- An attributed identity is one of the names of the end entity. -/
theorem names_of_identityFromConnection {endEntity : CertificateDer}
    {intermediates : List CertificateDer} {id : Identity}
    (hid : identityFromConnection pki (some (endEntity :: intermediates)) = some id) :
    ∃ cert names, pki.fromDer endEntity = some cert ∧
      cert.subjectAlternativeName = .ok (some names) := by
  rcases hcert : pki.fromDer endEntity with - | cert
  · simp [identityFromConnection, hcert] at hid
  · rcases hnames : cert.subjectAlternativeName with e | - | names
    · simp [identityFromConnection, identities, hcert, hnames, bind, Except.bind] at hid
    · simp [identityFromConnection, identities, hcert, hnames, bind, Except.bind, pure,
        Except.pure] at hid
    · exact ⟨cert, names, rfl, hnames⟩

/-- Among the names of a certificate, an identity of another trust domain stands before any of the
wanted one. -/
def ForeignFirst (pki : Pki E) (want : String) (endEntity : CertificateDer) : Prop :=
  ∃ cert names, pki.fromDer endEntity = some cert ∧
    cert.subjectAlternativeName = .ok (some names) ∧
    ∃ before name after id, names = before ++ name :: after ∧ name.identity = some id ∧
      id.trustDomain ≠ want ∧ ∀ name' ∈ before, ∀ id' ∈ name'.identity, id'.trustDomain ≠ want

/-- The first identity is foreign exactly if a foreign one comes before any other. -/
theorem foreignFirst_iff {want : String} {endEntity : CertificateDer}
    (intermediates : List CertificateDer) :
    ForeignFirst pki want endEntity ↔
      ∃ id ∈ identityFromConnection pki (some (endEntity :: intermediates)),
        id.trustDomain ≠ want := by
  constructor
  · rintro ⟨cert, names, hcert, hnames, before, name, after, id, rfl, hid, hforeign, hbefore⟩
    rw [identityFromConnection_eq hcert hnames, List.findSome?_append, List.findSome?_cons, hid]
    rcases hfirst : before.findSome? GeneralName.identity with - | id'
    · exact ⟨id, rfl, hforeign⟩
    · obtain ⟨name', hname', hid'⟩ := List.exists_of_findSome?_eq_some hfirst
      exact ⟨id', rfl, hbefore name' hname' id' hid'⟩
  · rintro ⟨id, hid, hforeign⟩
    obtain ⟨cert, names, hcert, hnames⟩ := names_of_identityFromConnection hid
    rw [identityFromConnection_eq hcert hnames] at hid
    obtain ⟨before, name, after, hsplit, hname, hnone⟩ := List.findSome?_eq_some_iff.1 hid
    refine ⟨cert, names, hcert, hnames, before, name, after, id, hsplit, hname, hforeign, ?_⟩
    intro name' hname' id' hid'
    rw [hnone name' hname'] at hid'
    cases hid'

/-- **An accepted peer is in the verified trust domain** exactly if no identity of another trust
domain stands before those of the verified one. -/
theorem peer_identity_in_trustDomain_iff (pki : Pki E) (want : String) (endEntity : CertificateDer)
    (intermediates : List CertificateDer) (now : ℕ) :
    (TrustDomainVerifier.verifyClientCert pki ⟨some want⟩ endEntity intermediates now = .ok () →
      ∀ id ∈ identityFromConnection pki (some (endEntity :: intermediates)),
        id.trustDomain = want) ↔
    (TrustDomainVerifier.verifyClientCert pki ⟨some want⟩ endEntity intermediates now = .ok () →
      ¬ForeignFirst pki want endEntity) := by
  rw [foreignFirst_iff intermediates]
  refine imp_congr_right fun _ ↦ ?_
  simp only [not_exists, not_and, not_not]

/-- In particular if the identities of its certificate are all of one trust domain: acceptance says
which one. -/
theorem peer_identity_of_oneTrustDomain {want : String} {endEntity : CertificateDer}
    {intermediates : List CertificateDer} {now : ℕ}
    (haccepted : TrustDomainVerifier.verifyClientCert pki ⟨some want⟩ endEntity intermediates now =
      .ok ())
    (hone : ∀ cert ids, pki.fromDer endEntity = some cert → identities cert = .ok ids →
      ∀ id ∈ ids, ∀ id' ∈ ids, id.trustDomain = id'.trustDomain) :
    ∀ id ∈ identityFromConnection pki (some (endEntity :: intermediates)),
      id.trustDomain = want := by
  intro id hid
  obtain ⟨cert, ids, hcert, hids, id', hmem', htrust⟩ :=
    TrustDomainVerifier.exists_identity_of_verify rfl haccepted
  have hhead : ids.head? = some id := by
    simpa [identityFromConnection, hcert, hids] using hid
  exact (hone cert ids hcert hids id (List.mem_of_head? hhead) id' hmem').trans htrust

/-- A public key infrastructure that accepts one certificate, with the given names. -/
def pkiWith (names : List GeneralName) : Pki Unit where
  fromDer der := if der = [1] then some ⟨.ok (some names)⟩ else none
  verifyClientCert _ _ _ := .ok ()

/-- A certificate with identities of two trust domains is accepted for the second and attributed to
the first. -/
theorem foreign_identity_attributed :
    let pki := pkiWith [.uri "spiffe://evil/ns/a/sa/b", .uri "spiffe://good/ns/c/sa/d"]
    TrustDomainVerifier.verifyClientCert pki ⟨some "good"⟩ [1] [] 0 = .ok () ∧
      identityFromConnection pki (some [[1]]) = some ⟨"evil", "a", "b"⟩ := by
  decide

end Ztunnel.Tls
