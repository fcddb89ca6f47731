import Courier.Link
import Courier.Proofs.Cipher.Gcm
import Courier.Proofs.Http.Form
import Courier.Proofs.Settings.Acceptance
import Courier.Proofs.Settings.Rejection
import Courier.Proofs.Text.Base64
import Courier.Proofs.Text.Blank
import Courier.Server.Startup

/-
  Sealed keys of endpoints.

  What was sealed with a secret is opened with it, with any
  blanks around it.  Both ends of a link open the key in the
  same way, so that the key that a client sends is the one
  that the server wants.

  Key definitions include:
    * `Secret.opened`
    * `Secret.IsUnusable`
    * `Config.HoldsSealed`
    * `Config.UsesKey`
    * `Config.LacksKey`
    * `Tunnel.Request.Carries`

  Key theorems include:
    * `Secret.decrypt_encrypt`
    * `Secret.decrypt_of_isUnusable`
    * `Secret.decrypt_of_long`
    * `Config.usesKey_of_apiKey`
    * `Config.sealed_key_works`
-/

------------------------------------------------------------
-- Sealed Values
------------------------------------------------------------

namespace Courier

namespace Secret

variable {text secret : String}
variable {bytes : Bytes}

/- Open a value with the key of a secret and a nonce. -/
def opened
    (secret : String)
    (nonce sealed : Bytes) : Except SecretError String :=
  match Gcm.decrypt? (Sha256.digest (Bytes.ofText secret))
      nonce sealed with
  | none => .error .wrongKey
  | some plain =>
      match Utf8.decode plain with
      | .ok chars => .ok (String.ofList chars)
      | .error _ => .error .notUtf8

/- The octets of a sealed value, without blanks around it. -/
def stored
    (text : String) : Except Base64.Fault Bytes :=
  Base64.decode (Bytes.ofText (Blank.trimText text))

/- A value cannot even be tried to be opened. -/
inductive IsUnusable
    (text secret : String) : SecretError → Prop where
| noKey :
    secret = "" →
      IsUnusable text secret .noKey
| notBase64 :
    (fault : Base64.Fault) →
      secret ≠ "" →
        stored text = .error fault →
          IsUnusable text secret (.notBase64 fault.message)
| tooShort :
    (bytes : Bytes) →
      secret ≠ "" →
        stored text = .ok bytes →
          bytes.length ≤ Gcm.nonceLength →
            IsUnusable text secret .tooShort

/- A secret that is there makes a key. -/
theorem key_eq_ok
    (hSecret : secret ≠ "") :
    key secret =
      .ok (Sha256.digest (Bytes.ofText secret)) := by
  rw [key, if_neg (by simpa using hSecret)]

/- A digest is a key of the cipher. -/
theorem length_digest
    (message : Bytes) :
    (Sha256.digest message).length = 32 := by
  simp [Sha256.digest, Bytes.length_ofWord]

/- A value that cannot be tried is refused for the reason. -/
theorem decrypt_of_isUnusable
    {e : SecretError}
    (hUnusable : IsUnusable text secret e) :
    decrypt text secret = .error e := by
  unfold decrypt
  cases hUnusable with
  | noKey hSecret =>
      subst hSecret
      rfl
  | notBase64 fault hSecret hStored =>
      rw [stored] at hStored
      rw [key_eq_ok hSecret]
      simp only
      rw [hStored]
  | tooShort bytes hSecret hStored hShort =>
      rw [stored] at hStored
      rw [key_eq_ok hSecret]
      simp only
      rw [hStored]
      simp only
      rw [if_pos hShort]

/-
  A value that is long enough has a whole nonce, and more
  after it.
-/
theorem decrypt_of_long
    (hSecret : secret ≠ "")
    (hStored : stored text = .ok bytes)
    (hLong : Gcm.nonceLength < bytes.length) :
    ∃ nonce sealed,
      bytes = nonce ++ sealed ∧
      nonce.length = Gcm.nonceLength ∧
      sealed ≠ [] ∧
      decrypt text secret = opened secret nonce sealed := by
  refine
    ⟨bytes.take Gcm.nonceLength, bytes.drop Gcm.nonceLength,
      (List.take_append_drop _ _).symm, ?_, ?_, ?_⟩
  · rw [List.length_take]
    omega
  · apply List.ne_nil_of_length_pos
    rw [List.length_drop]
    omega
  · rw [stored] at hStored
    rw [decrypt, key_eq_ok hSecret]
    simp only
    rw [hStored]
    simp only
    rw [if_neg (Nat.not_le_of_lt hLong)]
    rfl

end Secret

end Courier

------------------------------------------------------------
-- Sealing and Opening
------------------------------------------------------------

namespace Courier

namespace Secret

variable {plain secret : String}
variable {nonce : Bytes}
variable {front back : List Char}

/- What was sealed is opened. -/
theorem opened_encrypt
    (plain secret : String)
    (nonce : Bytes) :
    opened secret nonce
        (Gcm.encrypt (Sha256.digest (Bytes.ofText secret)) nonce
          (Bytes.ofText plain)) = .ok plain := by
  rw [opened, Gcm.decrypt?_encrypt (length_digest _)]
  simp only
  rw [Utf8.ofText_eq_encode, Utf8.decode_encode]
  simp only
  rw [String.ofList_toList]

/- No sign of Base64 is a blank. -/
theorem isBlank_of_mem_encode
    {bytes : Bytes}
    {c : Char}
    (hMem : c ∈ (Base64.encode bytes).toList) :
    Blank.isBlank c = false := by
  obtain ⟨b, hSymbol, rfl⟩ := Base64.isSymbol_of_mem_encode hMem
  have hRange := Base64.toNat_of_isSymbol hSymbol
  have hNumber : (Char.ofNat b.toNat).toNat = b.toNat :=
    Utf8.toNat_ofNat (Or.inl (by omega))
  unfold Blank.isBlank
  rw [hNumber]
  simp
  omega

/- Blanks around a sealed value change nothing. -/
theorem stored_surrounded
    (hFront : ∀ c ∈ front, Blank.isBlank c = true)
    (hBack : ∀ c ∈ back, Blank.isBlank c = true)
    (bytes : Bytes) :
    stored
        (String.ofList
          (front ++ (Base64.encode bytes).toList ++ back)) =
      .ok bytes := by
  rw [stored, Blank.trimText, String.toList_ofList,
    Blank.trim_surrounded hFront
      (fun c hMem => isBlank_of_mem_encode hMem) hBack,
    String.ofList_toList, Utf8.ofText_eq_encode,
    Base64.decode_encode]

/-
  A value that was sealed with a secret and a whole nonce is
  opened with the secret, with any blanks around it.
-/
theorem decrypt_encrypt
    (hSecret : secret ≠ "")
    (hNonce : nonce.length = Gcm.nonceLength)
    (hFront : ∀ c ∈ front, Blank.isBlank c = true)
    (hBack : ∀ c ∈ back, Blank.isBlank c = true)
    (plain : String) :
    ∃ sealed,
      encrypt plain secret nonce = .ok sealed ∧
      decrypt
          (String.ofList (front ++ sealed.toList ++ back))
          secret = .ok plain := by
  refine ⟨_, by rw [encrypt, key_eq_ok hSecret], ?_⟩
  have hLong :
      Gcm.nonceLength <
        (nonce ++
          Gcm.encrypt (Sha256.digest (Bytes.ofText secret)) nonce
            (Bytes.ofText plain)).length := by
    rw [List.length_append, hNonce,
      Gcm.length_encrypt (length_digest _), Gcm.tagLength]
    omega
  obtain ⟨nonce', sealed, hParts, hLength, -, hOpened⟩ :=
    decrypt_of_long hSecret
      (stored_surrounded hFront hBack _) hLong
  obtain ⟨rfl, rfl⟩ :=
    List.append_inj hParts (hNonce.trans hLength.symm)
  rw [hOpened, opened_encrypt]

end Secret

end Courier

------------------------------------------------------------
-- Requests with Keys
------------------------------------------------------------

namespace Courier

namespace Tunnel

/-
  The query of a request ends with the pairs of a request of
  a client.  Whatever comes before is parted from them.
-/
def Request.Carries
    (q : Tunnel.Request)
    (r : Web.Request) : Prop :=
  ∃ before : List Char,
    (before = [] ∨ ∃ earlier, before = earlier ++ ['&']) ∧
    Path.queryOfTarget q.target =
      before ++ (Form.encode r.query).toList

/- The pairs of a request that is carried arrive last. -/
theorem Request.Carries.query
    {q : Tunnel.Request}
    {r : Web.Request}
    (hCarries : q.Carries r) :
    ∃ earlier, q.query = earlier ++ r.query := by
  obtain ⟨before, hBefore, hQuery⟩ := hCarries
  rw [Request.query, hQuery]
  rcases hBefore with rfl | ⟨earlier, rfl⟩
  · exact ⟨[], by rw [List.nil_append, Form.decode_encode,
      List.nil_append]⟩
  · refine ⟨Form.decode earlier, ?_⟩
    rw [List.append_assoc, List.singleton_append,
      Form.decode_divider, Form.decode_encode]

/- A request that carries the wanted key is admitted. -/
theorem admits_of_carries
    {t : Tunnel}
    {q : Tunnel.Request}
    {s : ClientSettings}
    {m : Command}
    (hCarries : q.Carries (Wire.request s m))
    (hName : s.keyName = t.keyName)
    (hKey : s.key = t.key) :
    t.admits q = true := by
  obtain ⟨earlier, hQuery⟩ := hCarries.query
  have hValue : Form.value? q.query t.keyName = some t.key := by
    rw [hQuery, Wire.request, Form.value?, hName, hKey,
      List.reverse_append]
    exact List.lookup_cons_self
  rw [admits, hValue, beq_self_eq_true, Bool.or_true]

/- The query of a target follows its path. -/
theorem queryOfTarget_of_parts
    {target : String}
    {path query : List Char}
    (hTarget : target.toList = '/' :: (path ++ '?' :: query))
    (hPath : '?' ∉ path)
    (hShownPath : '#' ∉ path)
    (hShownQuery : '#' ∉ query) :
    Path.queryOfTarget target = query := by
  have hAll : ∀ c ∈ target.toList, (c != '#') = true := by
    intro c hMem
    rw [hTarget, List.mem_cons, List.mem_append,
      List.mem_cons] at hMem
    rw [bne_iff_ne]
    rintro rfl
    rcases hMem with hSlash | hMem | hMark | hMem
    · exact absurd hSlash (by decide)
    · exact hShownPath hMem
    · exact absurd hMark (by decide)
    · exact hShownQuery hMem
  have hShown : Path.shown target = target.toList := by
    calc
      Path.shown target =
          (target.toList ++ []).takeWhile (· != '#') := by
        rw [Path.shown, List.append_nil]
      _ = target.toList ++ [].takeWhile (· != '#') :=
        List.takeWhile_append_of_pos hAll
      _ = target.toList := by
        rw [List.takeWhile_nil, List.append_nil]
  have hFrom : Path.fromPath target = target.toList := by
    rw [Path.fromPath, hShown, hTarget]
    rfl
  have hNot : '?' ∉ '/' :: path := by
    rw [List.mem_cons, not_or]
    exact ⟨by decide, hPath⟩
  rw [Path.queryOfTarget, hFrom, hTarget, ← List.cons_append,
    Split.cut?_append hNot]
  rfl

/-
  The request that a network makes of one of a client carries
  it, unless the endpoint ends the path or all of the target.
-/
theorem carries_webRequest
    (t : Tunnel)
    (s : ClientSettings)
    (m : Command)
    (hPath : '?' ∉ t.endpoint.toList)
    (hShown : '#' ∉ t.endpoint.toList) :
    (Server.webRequest t (Wire.request s m)).Carries
      (Wire.request s m) := by
  refine ⟨[], .inl rfl, ?_⟩
  rw [List.nil_append]
  refine queryOfTarget_of_parts ?_ hPath hShown ?_
  · simp only [Server.webRequest, toString,
      String.toList_append, List.append_assoc]
    rfl
  · intro hMem
    rw [Wire.request, Form.encode, String.toList_ofList,
      List.map_singleton, List.intercalate_singleton] at hMem
    have hEq := Form.eq_of_mem_encodePair hMem (by decide)
    exact absurd hEq (by decide)

end Tunnel

end Courier

------------------------------------------------------------
-- Configurations with Sealed Keys
------------------------------------------------------------

namespace Courier

/- The error is about a secret or what is sealed with it. -/
def ConfigError.isSecret : ConfigError → Bool
  | .invalid (.secret _) => true
  | _ => false

namespace Config

variable {c : Config}
variable {plain text secret : String}
variable {e : SecretError}

/- A configuration has a sealed key, and a secret for it. -/
structure HoldsSealed
    (c : Config)
    (text secret : String) : Prop where
  key : c.tunnel.apiKey = text
  isSealed : c.tunnel.apiKeyEncoded = true
  secret : c.secretKey = secret

/-
  Both ends that have a configuration use the same key.  It
  is never what keeps one of them from being made, and what a
  client sends with it is admitted by a server.
-/
structure UsesKey
    (c : Config)
    (plain : String) : Prop where
  resolved : c.apiKey = .ok plain
  checked :
    ∀ (files : FileView) (fault : ConfigError),
      c.validate files = .error fault →
        fault.isSecret = false
  started :
    ∀ (buffer : LogBuffer) (site : Site)
      (fault : ConfigError),
      (Backend.start c buffer site).outcome = .error fault →
        fault.isSecret = false
  loaded :
    ∀ (files : FileView) (fault : ConfigError),
      ClientSettings.ofConfig c files = .error fault →
        fault.isSecret = false
  served :
    ∀ (buffer : LogBuffer) (site : Site) (b : Backend),
      (Backend.start c buffer site).outcome = .ok b →
        b.tunnel = Backend.tunnelOf c plain
  sent :
    ∀ (files : FileView) (s : ClientSettings),
      ClientSettings.ofConfig c files = .ok s →
        s.key = plain
  admitted :
    ∀ (buffer : LogBuffer) (site : Site) (b : Backend)
      (t : Tunnel) (files : FileView) (s : ClientSettings)
      (m : Command),
      (Backend.start c buffer site).outcome = .ok b →
        b.tunnel = some t →
        ClientSettings.ofConfig c files = .ok s →
          (∀ q : Tunnel.Request,
            q.Carries (Wire.request s m) → t.admits q = true) ∧
          ('#' ∉ c.tunnel.endpoint.toList →
            t.admits
              (Server.webRequest t (Wire.request s m)) = true)

/- Nothing can be made of a configuration for its key. -/
structure LacksKey
    (c : Config)
    (e : SecretError) : Prop where
  resolved : c.apiKey = .error e
  checked :
    ∀ files : FileView,
      c.checkSettings files = .ok () →
        c.validate files = .error (.invalid (.secret e))
  made :
    ∀ (files : FileView) (registry : Registry)
      (store : Option Store),
      c.checkSettings files = .ok () →
        Backend.make c files registry store =
          .error (.invalid (.secret e))
  loaded :
    ∀ (files : FileView) (trust : Option Tls.Trust)
      (anchors : List Tls.Certificate),
      Tls.clientSetup? c.tls files = .ok trust →
        ClientSettings.webAnchorsOf c files = .ok anchors →
          ClientSettings.ofConfig c files =
            .error (.invalid (.secret e))

/- A sealed key is what its text is opened as. -/
theorem HoldsSealed.apiKey_eq
    (hHolds : c.HoldsSealed text secret) :
    c.apiKey = Secret.decrypt text secret := by
  rw [apiKey, if_pos hHolds.isSealed, hHolds.key, hHolds.secret]

/- A key that cannot be opened is complained about. -/
theorem lacksKey_of_apiKey
    (hKey : c.apiKey = .error e) :
    c.LacksKey e := by
  have hChecked
      (files : FileView)
      (hSettings : c.checkSettings files = .ok ()) :
      c.validate files = .error (.invalid (.secret e)) := by
    rw [validate, hSettings]
    simp only
    rw [hKey]
  refine
    { resolved := hKey
      checked := hChecked
      made := ?_
      loaded := ?_ }
  · intro files registry store hSettings
    rw [Backend.make, hChecked files hSettings]
  · intro files trust anchors hTrust hAnchors
    rw [ClientSettings.ofConfig, hTrust]
    simp only
    rw [hAnchors]
    simp only
    rw [hKey]

variable {files : FileView}
variable {fault : ConfigError}

/- The checks complain about a key only if it is missing. -/
theorem isSecret_of_validate
    (hKey : c.apiKey = .ok plain)
    (hFault : c.validate files = .error fault) :
    fault.isSecret = false := by
  unfold validate at hFault
  split at hFault
  · cases hFault
    rfl
  · rw [hKey] at hFault
    cases hFault

/- What is wrong with files is not wrong with a secret. -/
theorem isSecret_of_webAnchorsOf
    (hFault :
      ClientSettings.webAnchorsOf c files = .error fault) :
    fault.isSecret = false := by
  unfold ClientSettings.webAnchorsOf at hFault
  repeat' split at hFault
  all_goals
    cases hFault
    try rfl

/- What a client loads has the opened key. -/
theorem ofConfig_of_apiKey
    (hKey : c.apiKey = .ok plain)
    (files : FileView) :
    match ClientSettings.ofConfig c files with
    | .error fault => fault.isSecret = false
    | .ok s =>
        s.key = plain ∧ s.keyName = c.tunnel.apiKeyName := by
  unfold ClientSettings.ofConfig
  cases Tls.clientSetup? c.tls files with
  | error e => rfl
  | ok trust =>
      cases hAnchors : ClientSettings.webAnchorsOf c files with
      | error fault => exact isSecret_of_webAnchorsOf hAnchors
      | ok anchors =>
          simp only
          rw [hKey]
          exact ⟨rfl, rfl⟩

/- What is wrong with dispatchers is not about a secret. -/
theorem isSecret_of_addNames
    {known r : Registry}
    {names : List String}
    (hFault : Registry.addNames known r names = .error fault) :
    fault.isSecret = false := by
  induction names generalizing r with
  | nil => cases hFault
  | cons name names ih =>
      unfold Registry.addNames at hFault
      split at hFault
      · exact ih hFault
      · cases hFault
        rfl

/- What is wrong with a storage is not about a secret. -/
theorem isSecret_of_storeOf
    {settings : FileServerSettings}
    {site : Site}
    (hFault :
      (Backend.storeOf settings site).1 = .error fault) :
    fault.isSecret = false := by
  unfold Backend.storeOf at hFault
  repeat' split at hFault
  all_goals
    cases hFault
    try rfl

/- A server that is made has the opened key. -/
theorem make_of_apiKey
    (hKey : c.apiKey = .ok plain)
    (files : FileView)
    (registry : Registry)
    (store : Option Store) :
    match Backend.make c files registry store with
    | .error fault => fault.isSecret = false
    | .ok b =>
        c.validate files = .ok () ∧
        b.tunnel = Backend.tunnelOf c plain := by
  unfold Backend.make
  cases hValid : c.validate files with
  | error fault => exact isSecret_of_validate hKey hValid
  | ok u =>
      simp only
      rw [hKey]
      exact ⟨trivial, rfl⟩

/- A server is made if all other settings are fine. -/
theorem exists_make_of_apiKey
    (hKey : c.apiKey = .ok plain)
    (hSettings : c.checkSettings files = .ok ())
    (registry : Registry)
    (store : Option Store) :
    ∃ b, Backend.make c files registry store = .ok b := by
  rw [Backend.make, validate, hSettings]
  simp only
  rw [hKey]
  exact ⟨_, rfl⟩

/- A server that is started has the opened key. -/
theorem start_of_apiKey
    (hKey : c.apiKey = .ok plain)
    (buffer : LogBuffer)
    (site : Site) :
    match (Backend.start c buffer site).outcome with
    | .error fault => fault.isSecret = false
    | .ok b =>
        c.validate site.files = .ok () ∧
        b.tunnel = Backend.tunnelOf c plain := by
  unfold Backend.start
  cases hRegistry :
    Registry.ofNames (LogQuery.builtin buffer)
      c.dispatchers with
  | error fault => exact isSecret_of_addNames hRegistry
  | ok registry =>
      simp only
      rcases hStore : Backend.storeOf c.fileServer site with
        ⟨fault | store, prepared⟩
      · exact isSecret_of_storeOf (congrArg Prod.fst hStore)
      · exact make_of_apiKey hKey site.files registry store

/- The endpoint of a checked configuration is a path. -/
theorem not_mem_of_validate
    (hValid : c.validate files = .ok ()) :
    '?' ∉ c.tunnel.endpoint.toList := by
  have hEndpoint := (validate_eq_ok_iff.1 hValid).endpoint
  intro hMem
  unfold Validation.endpoint at hEndpoint
  split at hEndpoint
  · cases hEndpoint
  · rw [if_pos (.inr (.inl hMem))] at hEndpoint
    cases hEndpoint

/- A key that is opened is used on both ends. -/
theorem usesKey_of_apiKey
    (hKey : c.apiKey = .ok plain) :
    c.UsesKey plain where
  resolved := hKey
  checked := fun _ _ hFault => isSecret_of_validate hKey hFault
  started := by
    intro buffer site fault hFault
    have hStart := start_of_apiKey hKey buffer site
    rw [hFault] at hStart
    exact hStart
  loaded := by
    intro files fault hFault
    have hLoad := ofConfig_of_apiKey hKey files
    rw [hFault] at hLoad
    exact hLoad
  served := by
    intro buffer site b hStarted
    have hStart := start_of_apiKey hKey buffer site
    rw [hStarted] at hStart
    exact hStart.2
  sent := by
    intro files s hLoaded
    have hLoad := ofConfig_of_apiKey hKey files
    rw [hLoaded] at hLoad
    exact hLoad.1
  admitted := by
    intro buffer site b t files s m hStarted hTunnel hLoaded
    have hStart := start_of_apiKey hKey buffer site
    have hLoad := ofConfig_of_apiKey hKey files
    rw [hStarted] at hStart
    rw [hLoaded] at hLoad
    obtain ⟨hValid, hMade⟩ := hStart
    obtain ⟨hSent, hName⟩ := hLoad
    rw [hTunnel] at hMade
    unfold Backend.tunnelOf at hMade
    split at hMade
    · cases hMade
      have hAll :
          ∀ q : Tunnel.Request,
            q.Carries (Wire.request s m) →
              Tunnel.admits
                ⟨c.tunnel.endpoint, c.tunnel.apiKeyName, plain⟩
                q = true :=
        fun q hCarries =>
          Tunnel.admits_of_carries hCarries hName hSent
      refine ⟨hAll, fun hShown => hAll _ ?_⟩
      exact Tunnel.carries_webRequest _ s m
        (not_mem_of_validate hValid) hShown
    · cases hMade

end Config

end Courier

------------------------------------------------------------
-- Sealed Keys
------------------------------------------------------------

namespace Courier

namespace Config

/-
  What is sealed with a secret and a whole nonce is opened
  with it, with any blanks around it, and both ends of a link
  use it as their key.  A value that cannot even be tried to
  be opened is refused, and so is a configuration with it.
  All others are long enough to be parted after the nonce.
-/
theorem sealed_key_works :
    (∀ (plain secret : String) (nonce : Bytes)
        (front back : List Char),
      secret ≠ "" →
        nonce.length = Gcm.nonceLength →
        (∀ ch ∈ front ++ back, Blank.isBlank ch = true) →
          ∃ sealed,
            Secret.encrypt plain secret nonce = .ok sealed ∧
            let text :=
              String.ofList (front ++ sealed.toList ++ back)
            Secret.decrypt text secret = .ok plain ∧
            ∀ c : Config,
              c.HoldsSealed text secret → c.UsesKey plain) ∧
    (∀ (text secret : String) (e : SecretError),
      Secret.IsUnusable text secret e →
        Secret.decrypt text secret = .error e ∧
        ∀ c : Config, c.HoldsSealed text secret → c.LacksKey e) ∧
    ∀ (text secret : String) (bytes : Bytes),
      secret ≠ "" →
        Secret.stored text = .ok bytes →
          Gcm.nonceLength < bytes.length →
            ∃ nonce sealed,
              bytes = nonce ++ sealed ∧
              nonce.length = Gcm.nonceLength ∧
              sealed ≠ [] ∧
              Secret.decrypt text secret =
                Secret.opened secret nonce sealed := by
  refine ⟨?_, ?_, ?_⟩
  · intro plain secret nonce front back hSecret hNonce hBlank
    obtain ⟨sealed, hSealed, hOpened⟩ :=
      Secret.decrypt_encrypt hSecret hNonce
        (fun ch hMem => hBlank ch (List.mem_append_left _ hMem))
        (fun ch hMem => hBlank ch (List.mem_append_right _ hMem))
        plain
    refine ⟨sealed, hSealed, hOpened, fun c hHolds => ?_⟩
    apply usesKey_of_apiKey
    rw [hHolds.apiKey_eq, hOpened]
  · intro text secret e hUnusable
    have hRefused := Secret.decrypt_of_isUnusable hUnusable
    refine ⟨hRefused, fun c hHolds => ?_⟩
    apply lacksKey_of_apiKey
    rw [hHolds.apiKey_eq, hRefused]
  · intro text secret bytes hSecret hStored hLong
    exact Secret.decrypt_of_long hSecret hStored hLong

/- A configuration of an endpoint with a sealed key. -/
def lockedConfig
    (text : String) : Config :=
  { Config.default with
    tunnel :=
      { TunnelSettings.default with
        enabled := true
        apiKey := text
        apiKeyEncoded := true }
    secretKey := "app-key" }

/-
  A key is sealed, stored between blanks and sent to a server
  that wants it, and another one is no Base64.
-/
theorem sealed_key_works_locked :
    ∃ sealed,
      Secret.encrypt "s3cret" "app-key" (List.replicate 12 7) =
        .ok sealed ∧
      (let c :=
        lockedConfig
          (String.ofList ([' '] ++ sealed.toList ++ ['\n']))
      ∀ m : Command, ∃ b t s,
        (Backend.start c (.ofCapacity 1) bareSite).outcome =
          .ok b ∧
        b.tunnel = some t ∧
        t.key = "s3cret" ∧
        ClientSettings.ofConfig c bareSite.files = .ok s ∧
        t.admits (Server.webRequest t (Wire.request s m)) =
          true) ∧
      Secret.decrypt "%%%" "app-key" =
        .error (.notBase64 "Invalid symbol 37, offset 0.") := by
  obtain ⟨hSeal, hRefuse, -⟩ := sealed_key_works
  have hBlank :
      ∀ ch ∈ [' '] ++ ['\n'], Blank.isBlank ch = true := by
    intro ch hMem
    simp only [List.singleton_append, List.mem_cons,
      List.not_mem_nil, or_false] at hMem
    rcases hMem with rfl | rfl
    · rfl
    · rfl
  obtain ⟨sealed, hSealed, -, hUses⟩ :=
    hSeal "s3cret" "app-key" (List.replicate 12 7) [' '] ['\n']
      (by decide) rfl hBlank
  refine ⟨sealed, hSealed, fun m => ?_, ?_⟩
  · have hKey :=
      hUses
        (lockedConfig
          (String.ofList ([' '] ++ sealed.toList ++ ['\n'])))
        ⟨rfl, rfl, rfl⟩
    generalize
      String.ofList ([' '] ++ sealed.toList ++ ['\n']) = text
      at hKey ⊢
    have hSettings :
        (lockedConfig text).checkSettings bareSite.files =
          .ok () := by
      calc
        (lockedConfig text).checkSettings bareSite.files =
            Config.default.checkSettings bareSite.files := rfl
        _ = .ok () := by rfl
    have hStarted :
        ∃ b,
          (Backend.start (lockedConfig text) (.ofCapacity 1)
            bareSite).outcome = .ok b :=
      exists_make_of_apiKey hKey.resolved hSettings _
        (some .empty)
    have hLoaded :
        ∃ s,
          ClientSettings.ofConfig (lockedConfig text)
            bareSite.files = .ok s := by
      apply ClientSettings.exists_ofConfig_iff.2
      exact
        { trust := nofun
          web := nofun
          key := ⟨_, hKey.resolved⟩ }
    obtain ⟨b, hStarted⟩ := hStarted
    obtain ⟨s, hLoaded⟩ := hLoaded
    have hTunnel := hKey.served _ _ b hStarted
    refine ⟨b, _, s, hStarted, hTunnel, rfl, hLoaded, ?_⟩
    have hShown : '#' ∉ "srvcmd".toList := by decide
    exact
      (hKey.admitted _ _ b _ _ s m hStarted hTunnel hLoaded).2
        hShown
  · have hStored :
        Secret.stored "%%%" = .error (.symbol 37 0) := by
      rw [Secret.stored, Utf8.ofText_eq_encode]
      rfl
    exact
      (hRefuse "%%%" "app-key" _
        (.notBase64 _ (by decide) hStored)).1

end Config

end Courier
