import Courier.Client.Communicator
import Courier.Server.Startup

/-
  What becomes of a configuration that the checks reject.

  A running client keeps its settings, and a server refuses
  to be made.  But a client is first made from whatever it
  can load, without a check, and a server that is started
  from a configuration prepares its storage before the
  checks.

  Key definitions include:
    * `Config.Loads`
    * `Config.Prepares`
    * `Config.HasNoEffect`

  Key theorems include:
    * `ClientSettings.exists_ofConfig_iff`
    * `Config.complaint_of_loads`
    * `Backend.prepared_start`
    * `Config.hasNoEffect_iff`
-/

------------------------------------------------------------
-- Clients
------------------------------------------------------------

namespace Courier

/- All that a client needs from files and secrets is there. -/
structure Config.Loads
    (c : Config)
    (files : FileView) : Prop where
  trust :
    c.tls.enabled = true →
      ∃ trust, Tls.clientSetup c.tls files = .ok trust
  web :
    c.https = true →
      ∃ anchors,
        ClientSettings.webAnchorsOf c files = .ok anchors
  key : ∃ key, c.apiKey = .ok key

namespace ClientSettings

variable {c : Config}
variable {files : FileView}

/- The encryption of a client is there if it is wanted. -/
theorem exists_clientSetup_iff
    (s : TlsSettings)
    (files : FileView) :
    (∃ trust, Tls.clientSetup? s files = .ok trust) ↔
      (s.enabled = true →
        ∃ trust, Tls.clientSetup s files = .ok trust) := by
  unfold Tls.clientSetup?
  cases s.enabled with
  | false => simp
  | true =>
      cases Tls.clientSetup s files with
      | error e => simp [Except.map]
      | ok trust => simp [Except.map]

/- A client is made exactly if all that it needs is there. -/
theorem exists_ofConfig_iff :
    (∃ s, ofConfig c files = .ok s) ↔ c.Loads files := by
  have hWeb :
      (∃ anchors, webAnchorsOf c files = .ok anchors) ↔
        (c.https = true →
          ∃ anchors, webAnchorsOf c files = .ok anchors) := by
    cases hHttps : c.https with
    | false => simp [webAnchorsOf, hHttps]
    | true => simp
  have hTrust := exists_clientSetup_iff c.tls files
  constructor
  · rintro ⟨s, hMade⟩
    unfold ofConfig at hMade
    split at hMade
    · cases hMade
    · next trust hSetup =>
        split at hMade
        · cases hMade
        · next anchors hAnchors =>
            split at hMade
            · cases hMade
            · next key hKey =>
                exact
                  { trust := hTrust.mp ⟨trust, hSetup⟩
                    web := hWeb.mp ⟨anchors, hAnchors⟩
                    key := ⟨key, hKey⟩ }
  · intro hLoads
    rcases hTrust.mpr hLoads.trust with ⟨trust, hSetup⟩
    rcases hWeb.mpr hLoads.web with ⟨anchors, hAnchors⟩
    rcases hLoads.key with ⟨key, hKey⟩
    unfold ofConfig
    simp only [hSetup, hAnchors, hKey]
    exact ⟨_, rfl⟩

end ClientSettings

end Courier

------------------------------------------------------------
-- Complaints
------------------------------------------------------------

namespace Courier

namespace SettingError

/- The complaint is about the authority that clients trust. -/
def isAboutAuthority : SettingError → Bool
  | .missingPath setting | .absentFile setting _ =>
      setting == "caPath"
  | _ => false

/- The complaint is about the versions of the encryption. -/
def isAboutVersions : SettingError → Bool
  | .badProtocol _ => true
  | _ => false

/- The complaint is about nothing that a client loads. -/
structure IsPlain
    (e : SettingError) : Prop where
  authority : e.isAboutAuthority = false
  versions : e.isAboutVersions = false

end SettingError

namespace Validation

variable {files : FileView}
variable {e : SettingError}

/- A failing sequence of checks fails at one of them. -/
theorem eq_error_of_bind
    {α β : Type}
    {first : Except SettingError α}
    {next : α → Except SettingError β}
    (hFailed : (first >>= next) = .error e) :
    first = .error e ∨ ∃ a, next a = .error e := by
  cases first with
  | error e' =>
      left
      exact congrArg Except.error (Except.error.inj hFailed)
  | ok a =>
      right
      exact ⟨a, hFailed⟩

/- A check with two plain complaints makes no other one. -/
theorem isPlain_of_two
    {p q : Prop}
    [Decidable p]
    [Decidable q]
    {first second : SettingError}
    (hFirst : first.IsPlain)
    (hSecond : second.IsPlain)
    (hFailed :
      (if p then .error first
        else if q then .error second
        else .ok () : Except SettingError Unit) = .error e) :
    e.IsPlain := by
  split at hFailed
  · cases hFailed
    exact hFirst
  · split at hFailed
    · cases hFailed
      exact hSecond
    · cases hFailed

/- Complaints about times are plain. -/
theorem isPlain_of_timeout
    {seconds : Nat}
    (hFailed : timeout seconds = .error e) :
    e.IsPlain :=
  isPlain_of_two ⟨rfl, rfl⟩ ⟨rfl, rfl⟩ hFailed

/- A complaint about a file names its setting. -/
theorem material_eq_error
    {setting : String}
    {path : Option String}
    (hFailed : material files setting path = .error e) :
    e.isAboutVersions = false ∧
      e.isAboutAuthority = (setting == "caPath") ∧
      ∀ p ∈ path, files.has p = false := by
  unfold material at hFailed
  split at hFailed
  · cases hFailed
    exact ⟨rfl, rfl, nofun⟩
  · next p =>
      split at hFailed
      · cases hFailed
      · next hAbsent =>
          cases hFailed
          refine ⟨rfl, rfl, fun q hPath => ?_⟩
          cases hPath
          exact eq_false_of_ne_true hAbsent

/- Versions that all have a name are not complained about. -/
theorem protocols_of_versionsOf
    {names : List String}
    {vs : List Tls.Version}
    (hNamed : Tls.versionsOf names = .ok vs) :
    protocols names = .ok () := by
  induction names generalizing vs with
  | nil => rfl
  | cons name rest ih =>
      unfold Tls.versionsOf at hNamed
      cases hName : Tls.Version.ofName name with
      | error e' =>
          rw [hName] at hNamed
          cases hNamed
      | ok v =>
          cases hRest : Tls.versionsOf rest with
          | error e' =>
              rw [hName, hRest] at hNamed
              cases hNamed
          | ok others =>
              have hKnown :
                  name = "TLSv1.2" ∨ name = "TLSv1.3" := by
                unfold Tls.Version.ofName at hName
                split at hName
                · exact .inl rfl
                · exact .inr rfl
                · cases hName
              unfold protocols
              rw [if_pos hKnown, ih hRest]

/- A complaint about versions comes from their names. -/
theorem protocols_eq_error
    {names : List String}
    (hFailed : protocols names = .error e) :
    e.isAboutAuthority = false ∧
      ∀ vs, Tls.versions names ≠ .ok vs := by
  constructor
  · induction names with
    | nil => cases hFailed
    | cons name rest ih =>
        unfold protocols at hFailed
        split at hFailed
        · exact ih hFailed
        · cases hFailed
          rfl
  · intro vs hNamed
    unfold Tls.versions at hNamed
    split at hNamed
    · next hNone =>
        rw [List.isEmpty_iff.mp hNone] at hFailed
        cases hFailed
    · rw [protocols_of_versionsOf hNamed] at hFailed
      cases hFailed

end Validation

end Courier

------------------------------------------------------------
-- Complaints of the Whole Check
------------------------------------------------------------

namespace Courier

namespace Config

variable {c : Config}
variable {files : FileView}
variable {e : SettingError}

/- A client that encrypts has read names and a file. -/
theorem exists_of_clientSetup
    {s : TlsSettings}
    {trust : Tls.Trust}
    (hSetup : Tls.clientSetup s files = .ok trust) :
    (∃ vs, Tls.versions s.protocols = .ok vs) ∧
      ∃ text, Tls.anchorText s files = .ok text := by
  unfold Tls.clientSetup at hSetup
  cases hVersions : Tls.versions s.protocols with
  | error e' =>
      rw [hVersions] at hSetup
      cases hSetup
  | ok vs =>
      cases hText : Tls.anchorText s files with
      | error e' =>
          rw [hVersions, hText] at hSetup
          cases hSetup
      | ok text => exact ⟨⟨vs, rfl⟩, text, rfl⟩

/- A client that trusts somebody has read whom. -/
theorem exists_anchorText
    (hLoads : c.Loads files)
    (hSecure : (c.tls.enabled || c.https) = true) :
    ∃ text, Tls.anchorText c.tls files = .ok text := by
  rcases Bool.or_eq_true_iff.mp hSecure with
    hEnabled | hHttps
  · rcases hLoads.trust hEnabled with ⟨trust, hSetup⟩
    exact (exists_of_clientSetup hSetup).2
  · rcases hLoads.web hHttps with ⟨anchors, hAnchors⟩
    unfold ClientSettings.webAnchorsOf at hAnchors
    rw [if_pos hHttps] at hAnchors
    split at hAnchors
    · cases hAnchors
    · next text hText => exact ⟨text, hText⟩

/- A file that is missing cannot be read. -/
theorem anchorText_of_material
    {s : TlsSettings}
    (hFailed :
      Validation.material files "caPath" s.caPath = .error e)
    (text : Bytes) :
    Tls.anchorText s files ≠ .ok text := by
  intro hText
  rcases Validation.material_eq_error hFailed with
    ⟨-, -, hAbsent⟩
  unfold Tls.anchorText Tls.readMaterial at hText
  split at hText
  · cases hText
  · next p hPath =>
      have hNothing := hAbsent p hPath
      unfold FileView.has at hNothing
      split at hText
      · next bytes hRead =>
          rw [hRead] at hNothing
          cases hNothing
      · cases hText

/-
  What a client loads is not complained about: neither the
  authority, nor the versions if it encrypts.
-/
theorem tls_of_loads
    (hLoads : c.Loads files)
    (hFailed :
      Validation.tls files c.tls c.https = .error e) :
    e.isAboutAuthority = false ∧
      (c.tls.enabled = true → e.isAboutVersions = false) := by
  unfold Validation.tls at hFailed
  split at hFailed
  · next hSecure =>
      -- A client loads neither the certificate nor the key.
      rcases Validation.eq_error_of_bind hFailed with
        hMaterial | ⟨-, hFailed⟩
      · rcases Validation.material_eq_error hMaterial with
          ⟨hVersions, hAuthority, -⟩
        exact ⟨hAuthority, fun _ => hVersions⟩
      rcases Validation.eq_error_of_bind hFailed with
        hMaterial | ⟨-, hFailed⟩
      · rcases Validation.material_eq_error hMaterial with
          ⟨hVersions, hAuthority, -⟩
        exact ⟨hAuthority, fun _ => hVersions⟩
      rcases Validation.eq_error_of_bind hFailed with
        hMaterial | ⟨-, hFailed⟩
      · rcases exists_anchorText hLoads hSecure with
          ⟨text, hText⟩
        exact absurd hText (anchorText_of_material hMaterial _)
      · rcases Validation.protocols_eq_error hFailed with
          ⟨hAuthority, hUnnamed⟩
        refine ⟨hAuthority, fun hEnabled => ?_⟩
        rcases hLoads.trust hEnabled with ⟨trust, hSetup⟩
        rcases (exists_of_clientSetup hSetup).1 with ⟨vs, hVs⟩
        exact absurd hVs (hUnnamed vs)
  · cases hFailed

/- Only the last check makes complaints that are not plain. -/
theorem checkSettings_eq_error
    (hFailed : c.checkSettings files = .error e) :
    e.IsPlain ∨
      Validation.tls files c.tls c.https = .error e := by
  have hRest
      (hFailed :
        (do
          Validation.timeout c.serverTimeoutSecs.toNat
          Validation.messageSize c.maxMessageSize.toNat
          Validation.endpoint c.tunnel.endpoint
          Validation.tls files c.tls c.https) = .error e) :
      e.IsPlain ∨
        Validation.tls files c.tls c.https = .error e := by
    rcases Validation.eq_error_of_bind hFailed with
      hTime | ⟨-, hFailed⟩
    · exact .inl (Validation.isPlain_of_timeout hTime)
    rcases Validation.eq_error_of_bind hFailed with
      hSize | ⟨-, hFailed⟩
    · exact .inl (Validation.isPlain_of_two ⟨rfl, rfl⟩
        ⟨rfl, rfl⟩ hSize)
    rcases Validation.eq_error_of_bind hFailed with
      hEndpoint | ⟨-, hFailed⟩
    · exact .inl (Validation.isPlain_of_two ⟨rfl, rfl⟩
        ⟨rfl, rfl⟩ hEndpoint)
    · exact .inr hFailed
  unfold checkSettings at hFailed
  rcases Validation.eq_error_of_bind hFailed with
    hName | ⟨-, hFailed⟩
  · exact .inl (Validation.isPlain_of_two ⟨rfl, rfl⟩
      ⟨rfl, rfl⟩ hName)
  rcases Validation.eq_error_of_bind hFailed with
    hTime | ⟨-, hFailed⟩
  · exact .inl (Validation.isPlain_of_timeout hTime)
  cases hClient : c.clientTimeoutSecs with
  | none =>
      rw [hClient] at hFailed
      exact hRest hFailed
  | some seconds =>
      rw [hClient] at hFailed
      dsimp only at hFailed
      rcases Validation.eq_error_of_bind hFailed with
        hTime | ⟨-, hFailed⟩
      · exact .inl (Validation.isPlain_of_timeout hTime)
      · exact hRest hFailed

/-
  If a client can be made from a configuration that is
  rejected, the complaint is about a setting that the client
  does not load.
-/
theorem complaint_of_loads
    {fault : ConfigError}
    (hLoads : c.Loads files)
    (hRejected : c.validate files = .error fault) :
    ∃ e,
      fault = .invalid (.setting e) ∧
        e.isAboutAuthority = false ∧
        (c.tls.enabled = true →
          e.isAboutVersions = false) := by
  unfold validate at hRejected
  split at hRejected
  · next e hFailed =>
      refine ⟨e, (Except.error.inj hRejected).symm, ?_⟩
      rcases checkSettings_eq_error hFailed with hPlain | hTls
      · exact ⟨hPlain.authority, fun _ => hPlain.versions⟩
      · exact tls_of_loads hLoads hTls
  · rcases hLoads.key with ⟨key, hKey⟩
    rw [hKey] at hRejected
    cases hRejected

end Config

end Courier

------------------------------------------------------------
-- Servers
------------------------------------------------------------

namespace Courier

/-
  Directories are made for the storage of a configuration
  when a server is started from it.
-/
structure Config.Prepares
    (c : Config)
    (buffer : LogBuffer)
    (site : Site) : Prop where
  dispatchers :
    ∃ registry,
      Registry.ofNames (LogQuery.builtin buffer)
        c.dispatchers = .ok registry
  enabled : c.fileServer.enabled = true
  storage : c.fileServer.storage = Backend.storageName
  location : site.created c.fileServer.location ≠ []

namespace Backend

variable {c : Config}
variable {e : ConfigError}

/- A server is not made from what the checks reject. -/
theorem make_of_rejected
    {files : FileView}
    (registry : Registry)
    (store : Option Store)
    (hRejected : c.validate files = .error e) :
    make c files registry store = .error e := by
  simp only [make, hRejected]

/- A server is not started from what the checks reject. -/
theorem start_of_rejected
    (buffer : LogBuffer)
    {site : Site}
    (hRejected : c.validate site.files = .error e) :
    ∃ e', (start c buffer site).outcome = .error e' := by
  unfold start
  split
  · exact ⟨_, rfl⟩
  · split
    · exact ⟨_, rfl⟩
    · exact ⟨e, make_of_rejected _ _ hRejected⟩

/-
  A start makes the directories for its storage, whatever
  the checks will say, or none at all.
-/
theorem prepared_start
    (c : Config)
    (buffer : LogBuffer)
    (site : Site) :
    (c.Prepares buffer site →
      (start c buffer site).prepared =
        site.created c.fileServer.location) ∧
    (¬ c.Prepares buffer site →
      (start c buffer site).prepared = []) := by
  unfold start storeOf
  constructor
  · intro hPrepares
    rcases hPrepares.dispatchers with ⟨registry, hRegistry⟩
    simp only [hRegistry, hPrepares.enabled,
      hPrepares.storage, Bool.not_true, Bool.false_eq_true,
      ne_eq, not_true_eq_false, if_false]
    cases site.prepare c.fileServer.location with
    | error e => rfl
    | ok store => rfl
  · intro hNot
    cases hRegistry :
      Registry.ofNames (LogQuery.builtin buffer)
        c.dispatchers with
    | error e => rfl
    | ok registry =>
        cases hEnabled : c.fileServer.enabled with
        | false => rfl
        | true =>
            by_cases hStorage :
              c.fileServer.storage = storageName
            · have hNothing :
                  site.created c.fileServer.location = [] := by
                apply Classical.byContradiction
                intro hSome
                exact hNot ⟨⟨registry, hRegistry⟩, hEnabled,
                  hStorage, hSome⟩
              cases site.prepare c.fileServer.location with
              | error e => simp [hStorage, hNothing]
              | ok store => simp [hStorage, hNothing]
            · simp [hStorage]

end Backend

end Courier

------------------------------------------------------------
-- Rejected Configurations
------------------------------------------------------------

namespace Courier

namespace Config

/-
  A configuration has no effect: no client and no server is
  made from it, a client that runs keeps its settings, and
  no directory is made on the way.
-/
structure HasNoEffect
    (c : Config)
    (buffer : LogBuffer)
    (site : Site)
    (registry : Registry)
    (store : Option Store)
    (current : ClientSettings) : Prop where
  created :
    ∃ e, ClientSettings.ofConfig c site.files = .error e
  reloaded :
    ∃ e,
      Communicator.reload current c site.files =
        (.error e, current)
  made :
    ∃ e,
      Backend.make c site.files registry store = .error e
  started :
    ∃ e, (Backend.start c buffer site).outcome = .error e
  prepared : (Backend.start c buffer site).prepared = []

variable {c : Config}
variable {e : ConfigError}

/- A client keeps its settings if the checks reject others. -/
theorem reload_of_rejected
    {files : FileView}
    (current : ClientSettings)
    (hRejected : c.validate files = .error e) :
    Communicator.reload current c files =
      (.error e, current) := by
  simp only [Communicator.reload, ClientSettings.ofValid,
    hRejected]

/-
  A configuration that the checks reject is refused by
  clients that run and by servers.  It has an effect exactly
  if a new client can load what it needs, or if directories
  are made for the storage of a server; the former only if
  the complaint is about a setting that clients do not load.
-/
theorem hasNoEffect_iff
    {site : Site}
    (buffer : LogBuffer)
    (registry : Registry)
    (store : Option Store)
    (current : ClientSettings)
    (hRejected : c.validate site.files = .error e) :
    Communicator.reload current c site.files =
        (.error e, current) ∧
      Backend.make c site.files registry store = .error e ∧
      (∃ e',
        (Backend.start c buffer site).outcome = .error e') ∧
      (c.HasNoEffect buffer site registry store current ↔
        ¬ c.Loads site.files ∧ ¬ c.Prepares buffer site) ∧
      (c.Loads site.files →
        ∃ s,
          e = .invalid (.setting s) ∧
            s.isAboutAuthority = false ∧
            (c.tls.enabled = true →
              s.isAboutVersions = false)) := by
  have hReload := reload_of_rejected current hRejected
  have hMake :=
    Backend.make_of_rejected registry store hRejected
  have hStart := Backend.start_of_rejected buffer hRejected
  rcases Backend.prepared_start c buffer site with
    ⟨hPrepared, hUnprepared⟩
  refine
    ⟨hReload, hMake, hStart, ?_,
      fun hLoads => complaint_of_loads hLoads hRejected⟩
  constructor
  · intro hNone
    refine ⟨fun hLoads => ?_, fun hPrepares => ?_⟩
    · rcases hNone.created with ⟨e', hRefused⟩
      rcases ClientSettings.exists_ofConfig_iff.mpr hLoads
        with ⟨s, hMade⟩
      rw [hMade] at hRefused
      cases hRefused
    · have hNothing := hNone.prepared
      rw [hPrepared hPrepares] at hNothing
      exact hPrepares.location hNothing
  · rintro ⟨hNotLoads, hNotPrepares⟩
    refine
      { created := ?_
        reloaded := ⟨e, hReload⟩
        made := ⟨e, hMake⟩
        started := hStart
        prepared := hUnprepared hNotPrepares }
    cases hMade : ClientSettings.ofConfig c site.files with
    | error e' => exact ⟨e', rfl⟩
    | ok s =>
        exact absurd
          (ClientSettings.exists_ofConfig_iff.mp ⟨s, hMade⟩)
          hNotLoads

/- Without encryption and sealed keys nothing is loaded. -/
theorem loads_of_open
    (files : FileView)
    (hTls : c.tls.enabled = false)
    (hHttps : c.https = false)
    (hKey : c.tunnel.apiKeyEncoded = false) :
    c.Loads files :=
  { trust := fun hEnabled => by simp [hTls] at hEnabled
    web := fun hSecure => by simp [hHttps] at hSecure
    key := ⟨c.tunnel.apiKey, by simp [apiKey, hKey]⟩ }

/- A configuration without the name of a server. -/
def nameless : Config :=
  { Config.default with serverName := "" }

/- One that wants to encrypt, without any file for that. -/
def unarmed : Config :=
  { nameless with
    tls := { TlsSettings.default with enabled := true }
    fileServer :=
      { FileServerSettings.default with enabled := false } }

/- A site without files, which can store some. -/
def bareSite : Site :=
  { files := fun _ => .error .notFound
    prepare := fun _ => .ok .empty }

/- The settings of a client without the name of a server. -/
def namelessSettings : ClientSettings :=
  { serverName := ""
    host := "localhost"
    adminPort := 9777
    webPort := 8080
    mode := .sockets
    defaultTimeoutMs := nameless.defaultTimeoutMs
    clientTimeoutSecs := none
    webOverride := false
    maxMessageSize := nameless.maxMessageSize
    bufferSize := nameless.fileServer.bufferSize
    trust := none
    https := false
    webAnchors := []
    endpoint := "srvcmd"
    keyName := "apiKey"
    key := "" }

/- The checks reject a configuration without a name. -/
theorem validate_nameless :
    nameless.validate bareSite.files =
      .error (.invalid (.setting .emptyServerName)) := by
  rfl

/- A client is made from it all the same. -/
theorem ofConfig_nameless :
    ClientSettings.ofConfig nameless bareSite.files =
      .ok namelessSettings := by
  rfl

/-
  A configuration without a name has an effect, unless it
  also lacks the files for its encryption.
-/
theorem hasNoEffect_iff_nameless :
    let buffer := LogBuffer.ofCapacity 1
    ¬ nameless.HasNoEffect buffer bareSite [] none
        namelessSettings ∧
      unarmed.HasNoEffect buffer bareSite [] none
        namelessSettings := by
  intro buffer
  have hUnarmed :
      unarmed.validate bareSite.files =
        .error (.invalid (.setting .emptyServerName)) := by
    rfl
  constructor
  · rcases hasNoEffect_iff buffer [] none namelessSettings
      validate_nameless with ⟨-, -, -, hIff, -⟩
    intro hNone
    exact
      (hIff.mp hNone).1
        (loads_of_open bareSite.files rfl rfl rfl)
  · rcases hasNoEffect_iff buffer [] none namelessSettings
      hUnarmed with ⟨-, -, -, hIff, -⟩
    refine hIff.mpr ⟨fun hLoads => ?_, fun hPrepares => ?_⟩
    · rcases hLoads.trust rfl with ⟨trust, hSetup⟩
      cases hSetup
    · cases hPrepares.enabled

/- Not all that the checks reject is without effect. -/
theorem not_forall_hasNoEffect :
    ¬ ∀ (c : Config) (buffer : LogBuffer) (site : Site)
        (registry : Registry) (store : Option Store)
        (current : ClientSettings) (e : ConfigError),
      c.validate site.files = .error e →
        c.HasNoEffect buffer site registry store current := by
  intro hAll
  have hNone :=
    hAll nameless (.ofCapacity 1) bareSite [] none
      namelessSettings _ validate_nameless
  rcases hNone.created with ⟨e, hRefused⟩
  rw [ofConfig_nameless] at hRefused
  cases hRefused

end Config

end Courier
