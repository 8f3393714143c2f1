import Aurae.Service.Validation

/-!
# The scripting client's connection

`auraescript/src/builtin/client.rs`: AuraeScript's own client. `new_client` reads the
configuration, the CA certificate, the client certificate and the client key, builds a TLS
configuration from them, connects over the agent's Unix socket and parses the client
certificate; `client_connect` reads the certificate's details off the identity it gets; `info`
reports them; `connect` makes a client and connects it. Each fallible call is the host's to
answer (`Host`); an error is its message, a context added with `with_context` replacing the
message it wraps.

* `newClient_ok` — a connected identity is exactly one made from the configured files: the
  TLS configuration pins the CA read from `auth.ca_crt`, presents the certificate and key read
  from `auth.client_crt` and `auth.client_key` and names `server.unsafe.aurae.io`, the
  socket is `system.socket`, and the certificate is the one read from `auth.client_crt`;
* `clientConnect_atomic` — `client_connect` changes the client only when every step
  succeeded, and then sets the certificate and its details together; it never stores the
  channel it connected;
* `connect_info` — a client that `connect` returns has no channel, and `info` reports its
  certificate's details.
-/

namespace Aurae.Script

/-- `X509Details`: what `info` reports of the client's certificate. -/
structure X509Details where
  subjectCommonName : String
  issuerCommonName : String
  sha256Fingerprint : String
  keyAlgorithm : String
  deriving DecidableEq

/-- What the client reads of an `X509Certificate`: its two common names and its key
algorithm, when present, and its SHA-256 fingerprint, whose computation can fail, as its
`{:?}` rendering. -/
structure X509Certificate where
  subjectCommonName : Option String
  issuerCommonName : Option String
  sha256Fingerprint : Except String String
  keyAlgorithm : Option String

/-- The `auth` section of `AuraeConfig`: the paths of the TLS material. -/
structure AuthConfig where
  caCrt : String
  clientCrt : String
  clientKey : String
  deriving DecidableEq

/-- The `system` section of `AuraeConfig`: the path of the agent's socket. -/
structure SystemConfig where
  socket : String
  deriving DecidableEq

/-- `AuraeConfig`, as far as the client reads it. -/
structure AuraeConfig where
  auth : AuthConfig
  system : SystemConfig
  deriving DecidableEq

/-- `ClientTlsConfig::new().domain_name(..).ca_certificate(..).identity(..)`: the server name,
the CA's PEM bytes, and the client certificate's and key's PEM bytes. -/
structure ClientTlsConfig where
  domainName : String
  caCertificate : List UInt8
  identity : List UInt8 × List UInt8
  deriving DecidableEq

/-- A connected `Channel`, as the host names it. -/
abbrev Channel := Nat

/-- The host's answer to each fallible call of `new_client`. -/
structure Host where
  /-- `default_config()`. -/
  defaultConfig : Except String AuraeConfig
  /-- `tokio::fs::read(path)`. -/
  read : String → Except String (List UInt8)
  /-- `Channel::from_static(KNOWN_IGNORED_SOCKET_ADDR).tls_config(tls)`. -/
  tlsConfig : ClientTlsConfig → Except String Unit
  /-- `.connect_with_connector(..)`, each connection a `UnixStream` to the socket's path. -/
  connect : ClientTlsConfig → String → Except String Channel
  /-- `X509Certificate::from_pem(bytes)`. -/
  fromPem : List UInt8 → Except String X509Certificate

/-- `ClientIdentity`. -/
structure ClientIdentity where
  channel : Channel
  x509 : X509Certificate

/-- `AuraeClient`. -/
structure AuraeClient where
  channel : Option Channel
  x509 : Option X509Certificate
  x509Details : Option X509Details

/-- `anyhow::Context::with_context`: a failure's message becomes the context. -/
def withContext {α : Type} (context : String) : Except String α → Except String α
  | .ok a => .ok a
  | .error _ => .error context

/-- `Option::ok_or`. -/
def okOr {α : Type} : Option α → String → Except String α
  | some a, _ => .ok a
  | none, e => .error e

/-- `new_client`. -/
def newClient (host : Host) : Except String ClientIdentity := do
  let res ← host.defaultConfig
  let serverRootCaCert ← withContext "could not read ca crt" (host.read res.auth.caCrt)
  let clientCert ← withContext "could not read client crt" (host.read res.auth.clientCrt)
  let clientKey ← withContext "could not read client key" (host.read res.auth.clientKey)
  let tls : ClientTlsConfig := ⟨"server.unsafe.aurae.io", serverRootCaCert, (clientCert, clientKey)⟩
  host.tlsConfig tls
  let channel ←
    withContext "unable to connect auraed system socket" (host.connect tls res.system.socket)
  let x509 ← host.fromPem clientCert
  pure ⟨channel, x509⟩

/-- The reads of `client_connect` off the certificate, in its order. -/
def X509Certificate.details (x509 : X509Certificate) : Except String X509Details := do
  let subjectCommonName ← okOr x509.subjectCommonName "missing subject_common_name"
  let issuerCommonName ← okOr x509.issuerCommonName "missing issuer_common_name"
  let sha256Fingerprint ← x509.sha256Fingerprint
  let keyAlgorithm ← okOr x509.keyAlgorithm "missing key_algorithm"
  pure ⟨subjectCommonName, issuerCommonName, sha256Fingerprint, keyAlgorithm⟩

namespace AuraeClient

/-- `AuraeClient::new`. -/
def new : AuraeClient := ⟨none, none, none⟩

/-- `AuraeClient::client_connect`: every `?` comes before the two assignments. -/
def clientConnect (self : AuraeClient) (host : Host) : AuraeClient × Except String Unit :=
  match newClient host with
  | .error e => (self, .error e)
  | .ok x =>
    match x.x509.details with
    | .error e => (self, .error e)
    | .ok details => ({ self with x509Details := some details, x509 := some x.x509 }, .ok ())

/-- `AuraeClient::info`. -/
def info (self : AuraeClient) : X509Details :=
  match self.x509Details with
  | some r => r
  | none => ⟨"-", "-", "-", "-"⟩

end AuraeClient

/-- `connect`: on an error the process prints it and exits with `EXIT_CONNECT_FAILURE`; here
the error is returned. -/
def connect (host : Host) : Except String AuraeClient :=
  match (AuraeClient.mk none none none).clientConnect host with
  | (_, .error e) => .error e
  | (client, .ok ()) => .ok client

/-! ## What a connection is made of -/

theorem withContext_eq_ok {α : Type} {context : String} {x : Except String α} {a : α} :
    withContext context x = .ok a ↔ x = .ok a := by
  cases x <;> simp [withContext]

/-- **A connected identity is made from the configured files.** `new_client` succeeds exactly
when the host reads the configuration and the three files it names, accepts the TLS
configuration built from them, connects over the configured socket with it and parses the
client certificate read. -/
theorem newClient_ok (host : Host) (x : ClientIdentity) :
    newClient host = .ok x ↔ ∃ cfg ca crt key,
      host.defaultConfig = .ok cfg ∧ host.read cfg.auth.caCrt = .ok ca ∧
      host.read cfg.auth.clientCrt = .ok crt ∧ host.read cfg.auth.clientKey = .ok key ∧
      host.tlsConfig ⟨"server.unsafe.aurae.io", ca, (crt, key)⟩ = .ok () ∧
      host.connect ⟨"server.unsafe.aurae.io", ca, (crt, key)⟩ cfg.system.socket = .ok x.channel ∧
      host.fromPem crt = .ok x.x509 := by
  simp only [newClient, except_bind_eq_ok, withContext_eq_ok, except_pure_eq_ok]
  constructor
  · rintro ⟨cfg, hcfg, ca, hca, crt, hcrt, key, hkey, ⟨⟩, htls, _, hch, _, hpem, rfl⟩
    exact ⟨cfg, ca, crt, key, hcfg, hca, hcrt, hkey, htls, hch, hpem⟩
  · rintro ⟨cfg, ca, crt, key, hcfg, hca, hcrt, hkey, htls, hch, hpem⟩
    exact ⟨cfg, hcfg, ca, hca, crt, hcrt, key, hkey, (), htls, _, hch, _, hpem, rfl⟩

/-! ## Connecting a client -/

/-- **`client_connect` is all or nothing.** It fails leaving the client as it was, or
succeeds setting the certificate of the identity `new_client` made and that certificate's
details, together; either way the client keeps the channel it had: the connected channel is
dropped. -/
theorem clientConnect_atomic (self : AuraeClient) (host : Host) :
    (self.clientConnect host).1.channel = self.channel ∧
      ((∃ e, self.clientConnect host = (self, .error e)) ∨
        ∃ x d, newClient host = .ok x ∧ x.x509.details = .ok d ∧
          self.clientConnect host =
            ({ self with x509 := some x.x509, x509Details := some d }, .ok ())) := by
  unfold AuraeClient.clientConnect
  rcases hx : newClient host with e | x
  · exact ⟨rfl, .inl ⟨e, rfl⟩⟩
  dsimp only
  rcases hd : x.x509.details with e | d
  · exact ⟨rfl, .inl ⟨e, rfl⟩⟩
  · exact ⟨rfl, .inr ⟨x, d, rfl, hd, rfl⟩⟩

/-- **A client that `connect` returns reports its certificate.** It holds the certificate of
the identity `new_client` made, `info` reports that certificate's details, and it holds no
channel. -/
theorem connect_info {host : Host} {client : AuraeClient} (h : connect host = .ok client) :
    client.channel = none ∧ ∃ x, newClient host = .ok x ∧ client.x509 = some x.x509 ∧
      x.x509.details = .ok client.info := by
  unfold connect AuraeClient.clientConnect at h
  rcases hx : newClient host with e | x <;> rw [hx] at h
  · cases h
  dsimp only at h
  rcases hd : x.x509.details with e | d <;> rw [hd] at h <;> cases h
  exact ⟨rfl, x, rfl, rfl, hd⟩

end Aurae.Script
