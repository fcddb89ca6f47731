import Courier.Settings.Validation

/-
  Accepted configurations.

  Checks are made one after the other, and the first one that
  fails ends them.  So a configuration is accepted exactly if
  it passes each of them.

  Key definitions include:
    * `Config.Passes`

  Key theorems include:
    * `Validation.timeout_eq_ok_iff`
    * `Validation.messageSize_eq_ok_iff`
    * `Config.validate_eq_ok_iff`
-/

------------------------------------------------------------
-- Single Checks
------------------------------------------------------------

namespace Courier

/- Two steps come to something if both of them do. -/
theorem bind_eq_ok_iff
    {ε α β : Type}
    {got : Except ε α}
    {step : α → Except ε β}
    {b : β} :
    got.bind step = .ok b ↔
      ∃ a, got = .ok a ∧ step a = .ok b := by
  cases got with
  | error e => simp [Except.bind]
  | ok a => simp [Except.bind]

namespace Validation

/- A limit in seconds that is accepted is not too long. -/
theorem timeout_eq_ok_iff
    {seconds : Nat} :
    timeout seconds = .ok () ↔
      0 < seconds ∧ seconds ≤ SettingError.maxTimeout := by
  unfold timeout
  split
  · next hNone => simp [hNone]
  · next hSome =>
      split
      · next hLong =>
          simp only [reduceCtorEq, false_iff]
          omega
      · next hShort =>
          simp only [true_iff]
          omega

/- A bound on messages that is accepted has two bounds. -/
theorem messageSize_eq_ok_iff
    {size : Nat} :
    messageSize size = .ok () ↔
      SettingError.minMessageSize ≤ size ∧
        size ≤ Frame.maxLength := by
  unfold messageSize
  split
  · next hSmall =>
      simp only [reduceCtorEq, false_iff]
      omega
  · next hEnough =>
      split
      · next hLarge =>
          simp only [reduceCtorEq, false_iff]
          omega
      · next hFits =>
          simp only [true_iff]
          omega

end Validation

end Courier

------------------------------------------------------------
-- All Checks
------------------------------------------------------------

namespace Courier

namespace Config

/- A configuration passes each of the checks. -/
structure Passes
    (c : Config)
    (files : FileView) : Prop where
  name : Validation.serverName c.serverName = .ok ()
  connection :
    Validation.timeout c.connectionTimeoutSecs.toNat = .ok ()
  client :
    ∀ seconds,
      c.clientTimeoutSecs = some seconds →
        Validation.timeout seconds.toNat = .ok ()
  server :
    Validation.timeout c.serverTimeoutSecs.toNat = .ok ()
  size :
    Validation.messageSize c.maxMessageSize.toNat = .ok ()
  endpoint : Validation.endpoint c.tunnel.endpoint = .ok ()
  tls : Validation.tls files c.tls c.https = .ok ()
  key : ∃ key, c.apiKey = .ok key

variable {c : Config}
variable {files : FileView}

/- Two checks are passed if both of them are. -/
theorem bind_check_eq_ok_iff
    {check : Except SettingError Unit}
    {rest : Unit → Except SettingError Unit} :
    (check >>= rest) = .ok () ↔
      check = .ok () ∧ rest () = .ok () :=
  bind_eq_ok_iff.trans
    { mp := fun ⟨_, hCheck, hRest⟩ => ⟨hCheck, hRest⟩
      mpr := fun ⟨hCheck, hRest⟩ => ⟨(), hCheck, hRest⟩ }

/- The checks of the settings are passed one by one. -/
theorem checkSettings_eq_ok_iff :
    c.checkSettings files = .ok () ↔
      Validation.serverName c.serverName = .ok () ∧
        Validation.timeout c.connectionTimeoutSecs.toNat =
          .ok () ∧
        (∀ seconds,
          c.clientTimeoutSecs = some seconds →
            Validation.timeout seconds.toNat = .ok ()) ∧
        Validation.timeout c.serverTimeoutSecs.toNat = .ok () ∧
        Validation.messageSize c.maxMessageSize.toNat =
          .ok () ∧
        Validation.endpoint c.tunnel.endpoint = .ok () ∧
        Validation.tls files c.tls c.https = .ok () := by
  unfold checkSettings
  cases c.clientTimeoutSecs with
  | none => simp [bind_check_eq_ok_iff]
  | some seconds => simp [bind_check_eq_ok_iff]

/- A configuration is accepted if it passes all checks. -/
theorem validate_eq_ok_iff :
    c.validate files = .ok () ↔ c.Passes files := by
  have hKey :
      c.validate files = .ok () ↔
        c.checkSettings files = .ok () ∧
          ∃ key, c.apiKey = .ok key := by
    unfold validate
    cases c.checkSettings files with
    | error e => simp
    | ok u =>
        cases c.apiKey with
        | error e => simp
        | ok key => simp
  rw [hKey, checkSettings_eq_ok_iff]
  constructor
  · rintro
      ⟨⟨hName, hConnection, hClient, hServer, hSize, hEndpoint,
        hTls⟩, hApi⟩
    exact
      { name := hName
        connection := hConnection
        client := hClient
        server := hServer
        size := hSize
        endpoint := hEndpoint
        tls := hTls
        key := hApi }
  · intro hPasses
    exact
      ⟨⟨hPasses.name, hPasses.connection, hPasses.client,
        hPasses.server, hPasses.size, hPasses.endpoint,
        hPasses.tls⟩, hPasses.key⟩

end Config

end Courier
