import Courier.Settings.Source

/-
  The order of the variables in an environment.

  Each variable has a setting of its own, which it can only
  replace.  So if no two variables have the same name, all
  orders of them come to the same configuration, or none of
  them comes to one.

  Key definitions include:
    * `Variable`
    * `Variable.read?`
    * `Variable.get`
    * `Variable.set`
    * `Config.IsChangedBy`
    * `Config.HasUnreadable`

  Key theorems include:
    * `Variable.override_key`
    * `Variable.override_of_other`
    * `Config.IsChangedBy.unique`
    * `Config.isChangedBy_of_overrideAll`
    * `Config.overrideAll_fails_iff`
    * `Config.overrideAll_in_any_order`
-/

------------------------------------------------------------
-- Variables
------------------------------------------------------------

namespace Courier

/- The variables that change a configuration. -/
inductive Variable where
| serverName : Variable
| host : Variable
| adminPort : Variable
| webPort : Variable
| mode : Variable
| webOverride : Variable
| clientTimeout : Variable
| tls : Variable
| https : Variable
| apiKey : Variable
| secretKey : Variable
| storageLocation : Variable
deriving DecidableEq, Repr

namespace Variable

/- What follows the mark in the name of a variable. -/
def name : Variable → String
  | .serverName => "SERVER_NAME"
  | .host => "HOST"
  | .adminPort => "ADMIN_PORT"
  | .webPort => "WEB_PORT"
  | .mode => "MODE"
  | .webOverride => "WEB_OVERRIDE"
  | .clientTimeout => "CLIENT_TIMEOUT"
  | .tls => "TLS"
  | .https => "HTTPS"
  | .apiKey => "API_KEY"
  | .secretKey => "SECRET_KEY"
  | .storageLocation => "STORAGE_LOCATION"

/- The name of a variable in the environment. -/
def key
    (v : Variable) : String :=
  String.ofList (Config.variableMark ++ v.name.toList)

/- What the setting of a variable can be. -/
def Value : Variable → Type
  | .adminPort | .webPort => UInt16
  | .mode => Mode
  | .webOverride | .tls | .https => Bool
  | .clientTimeout => Option UInt64
  | .serverName | .host | .apiKey | .secretKey
  | .storageLocation => String

/- The port that a text spells, with blanks around it. -/
def portOf?
    (text : String) : Option UInt16 :=
  (Config.numberOf? 65536 text).map UInt16.ofNat

/- The limit that a text spells, with blanks around it. -/
def limitOf?
    (text : String) : Option (Option UInt64) :=
  (Config.numberOf? UInt64.size text).map fun seconds =>
    some (UInt64.ofNat seconds)

/- The setting that a text spells, if it can be one. -/
def read? : (v : Variable) → String → Option v.Value
  | .adminPort | .webPort => portOf?
  | .mode => Config.modeOf?
  | .webOverride | .tls | .https => Config.flagOf?
  | .clientTimeout => limitOf?
  | .serverName | .host | .apiKey | .secretKey
  | .storageLocation => some

/- The setting of a variable in a configuration. -/
def get : (v : Variable) → Config → v.Value
  | .serverName => Config.serverName
  | .host => Config.host
  | .adminPort => Config.adminPort
  | .webPort => Config.webPort
  | .mode => Config.mode
  | .webOverride => Config.webOverride
  | .clientTimeout => Config.clientTimeoutSecs
  | .tls => fun c => c.tls.enabled
  | .https => Config.https
  | .apiKey => fun c => c.tunnel.apiKey
  | .secretKey => Config.secretKey
  | .storageLocation => fun c => c.fileServer.location

/- A configuration with another setting of a variable. -/
def set : (v : Variable) → v.Value → Config → Config
  | .serverName => fun a c => { c with serverName := a }
  | .host => fun a c => { c with host := a }
  | .adminPort => fun a c => { c with adminPort := a }
  | .webPort => fun a c => { c with webPort := a }
  | .mode => fun a c => { c with mode := a }
  | .webOverride => fun a c => { c with webOverride := a }
  | .clientTimeout => fun a c =>
      { c with clientTimeoutSecs := a }
  | .tls => fun a c => { c with tls := { c.tls with enabled := a } }
  | .https => fun a c => { c with https := a }
  | .apiKey => fun a c =>
      { c with tunnel := { c.tunnel with apiKey := a } }
  | .secretKey => fun a c => { c with secretKey := a }
  | .storageLocation => fun a c =>
      { c with
        fileServer := { c.fileServer with location := a } }

end Variable

/- What no variable can change in a configuration. -/
def Config.beyondVariables
    (c : Config) : Config :=
  { Config.default with
    connectionTimeoutSecs := c.connectionTimeoutSecs
    serverTimeoutSecs := c.serverTimeoutSecs
    maxMessageSize := c.maxMessageSize
    tls := { c.tls with enabled := false }
    tunnel := { c.tunnel with apiKey := "" }
    dispatchers := c.dispatchers
    fileServer := { c.fileServer with location := "" }
    logBufferCapacity := c.logBufferCapacity }

/- A configuration with another setting of each variable. -/
def Config.withSettings
    (c : Config)
    (setting : (v : Variable) → v.Value) : Config :=
  { c with
    serverName := setting .serverName
    host := setting .host
    adminPort := setting .adminPort
    webPort := setting .webPort
    mode := setting .mode
    webOverride := setting .webOverride
    clientTimeoutSecs := setting .clientTimeout
    tls := { c.tls with enabled := setting .tls }
    https := setting .https
    tunnel := { c.tunnel with apiKey := setting .apiKey }
    secretKey := setting .secretKey
    fileServer :=
      { c.fileServer with
        location := setting .storageLocation } }

end Courier

------------------------------------------------------------
-- Settings of Variables
------------------------------------------------------------

namespace Courier

namespace Variable

variable {v w : Variable}

/- A setting is what it was set to. -/
theorem get_set_same
    (a : v.Value)
    (c : Config) :
    v.get (v.set a c) = a := by
  cases v <;> rfl

/- No variable changes the setting of another one. -/
theorem get_set_other
    (hOther : v ≠ w)
    (a : v.Value)
    (c : Config) :
    w.get (v.set a c) = w.get c := by
  cases v <;> cases w
  all_goals first
    | rfl
    | exact absurd rfl hOther

/- Nor does it change anything else. -/
theorem beyondVariables_set
    (a : v.Value)
    (c : Config) :
    (v.set a c).beyondVariables = c.beyondVariables := by
  cases v <;> rfl

/- There is nothing more to a configuration. -/
theorem eq_of_get_eq
    {c c' : Config}
    (hBeyond : c.beyondVariables = c'.beyondVariables)
    (hGet : ∀ v : Variable, v.get c = v.get c') :
    c = c' := by
  calc
    c = c.beyondVariables.withSettings (fun v => v.get c) := rfl
    _ = c'.beyondVariables.withSettings (fun v => v.get c') := by
      rw [hBeyond, funext hGet]
    _ = c' := rfl

end Variable

end Courier

------------------------------------------------------------
-- Single Variables
------------------------------------------------------------

namespace Courier

/- The mark of a variable is told from the rest of its name. -/
theorem Config.variableName?_eq_some_iff
    {key name : String} :
    Config.variableName? key = some name ↔
      key =
        String.ofList
          (Config.variableMark ++ name.toList) := by
  unfold Config.variableName?
  split
  · next hPrefix =>
      obtain ⟨rest, hRest⟩ := List.isPrefixOf_iff_prefix.1 hPrefix
      have hDrop :
          key.toList.drop Config.variableMark.length = rest := by
        rw [← hRest, List.drop_left]
      rw [hDrop, Option.some.injEq, ← String.toList_inj,
        ← String.toList_inj, ← hRest]
      simp
  · next hPrefix =>
      simp only [reduceCtorEq, false_iff]
      intro hKey
      apply hPrefix
      rw [hKey, String.toList_ofList]
      exact List.isPrefixOf_iff_prefix.2
        (List.prefix_append _ _)

namespace Variable

/- A variable is told by its name. -/
theorem variableName?_key
    (v : Variable) :
    Config.variableName? v.key = some v.name :=
  Config.variableName?_eq_some_iff.2 rfl

/- Different variables have different names. -/
theorem key_inj
    {v w : Variable}
    (hKey : v.key = w.key) :
    v = w := by
  have hName : v.name = w.name := by
    apply Option.some.inj
    rw [← variableName?_key v, ← variableName?_key w, hKey]
  revert hName
  cases v <;> cases w <;> simp [name]

/- What is said of a text that cannot be the setting. -/
def complaint
    (v : Variable)
    (text : String) : ConfigError :=
  match v with
  | .mode => .invalid (.unknownMode v.key text)
  | _ => .invalid (.unparsed v.key text)

/- A variable replaces its setting by what its text spells. -/
theorem override_key
    (v : Variable)
    (c : Config)
    (text : String) :
    c.override v.key text =
      match v.read? text with
      | some a => .ok (v.set a c)
      | none => .error (v.complaint text) := by
  unfold Config.override
  rw [variableName?_key]
  cases v
  all_goals
    simp only [name, read?, set, complaint, Config.taking,
      portOf?, limitOf?]
  case adminPort | webPort =>
    cases Config.numberOf? 65536 text <;> rfl
  case clientTimeout =>
    cases Config.numberOf? UInt64.size text <;> rfl
  case mode =>
    cases Config.modeOf? text <;> rfl
  case webOverride | tls | https =>
    cases Config.flagOf? text <;> rfl

/- The names that are known are those of variables. -/
theorem exists_of_mem_variableNames
    {name : String}
    (hName : name ∈ Config.variableNames) :
    ∃ v : Variable, v.name = name := by
  simp only [Config.variableNames, List.mem_cons,
    List.not_mem_nil, or_false] at hName
  rcases hName with rfl | rfl | rfl | rfl | rfl | rfl | rfl |
    rfl | rfl | rfl | rfl | rfl
  · exact ⟨.serverName, rfl⟩
  · exact ⟨.host, rfl⟩
  · exact ⟨.adminPort, rfl⟩
  · exact ⟨.webPort, rfl⟩
  · exact ⟨.mode, rfl⟩
  · exact ⟨.webOverride, rfl⟩
  · exact ⟨.clientTimeout, rfl⟩
  · exact ⟨.tls, rfl⟩
  · exact ⟨.https, rfl⟩
  · exact ⟨.apiKey, rfl⟩
  · exact ⟨.secretKey, rfl⟩
  · exact ⟨.storageLocation, rfl⟩

/- Other names change nothing. -/
theorem override_of_other
    {key : String}
    (c : Config)
    (text : String)
    (hOther : ∀ v : Variable, key ≠ v.key) :
    c.override key text = .ok c := by
  have hUnknown :
      ∀ name ∈ Config.variableNames,
        Config.variableName? key ≠ some name := by
    intro name hName hKey
    obtain ⟨v, rfl⟩ := exists_of_mem_variableNames hName
    exact hOther v (Config.variableName?_eq_some_iff.1 hKey)
  unfold Config.override
  split
  case h_13 => rfl
  all_goals
    next hKey => exact absurd hKey (hUnknown _ (by decide))

end Variable

end Courier

------------------------------------------------------------
-- All Variables
------------------------------------------------------------

namespace Courier

namespace Config

variable {c c' c'' : Config}
variable {environment environment' : List (String × String)}

/-
  A configuration where each variable of an environment has
  the setting that its text spells, and that is another one
  otherwise.
-/
structure IsChangedBy
    (c : Config)
    (environment : List (String × String))
    (c' : Config) : Prop where
  given :
    ∀ (v : Variable) (text : String),
      (v.key, text) ∈ environment →
        v.read? text = some (v.get c')
  left :
    ∀ v : Variable,
      (∀ text, (v.key, text) ∉ environment) →
        v.get c' = v.get c
  beyond : c'.beyondVariables = c.beyondVariables

namespace IsChangedBy

/- No variables change nothing. -/
theorem nil :
    c.IsChangedBy [] c where
  given := fun _ _ hMem => absurd hMem List.not_mem_nil
  left := fun _ _ => rfl
  beyond := rfl

/-
  A variable can change its setting first if it is not there
  again later.
-/
theorem cons_key
    {v : Variable}
    {text : String}
    {a : v.Value}
    (hRead : v.read? text = some a)
    (hOnce : v.key ∉ environment.map Prod.fst)
    (hRest : (v.set a c).IsChangedBy environment c') :
    c.IsChangedBy ((v.key, text) :: environment) c' where
  given := by
    intro w other hMem
    rcases List.mem_cons.1 hMem with hHead | hTail
    · obtain ⟨hKey, rfl⟩ := Prod.mk.injEq .. ▸ hHead
      obtain rfl := Variable.key_inj hKey
      have hGet : w.get c' = a := by
        rw [hRest.left w, Variable.get_set_same]
        intro text hMem
        exact hOnce (List.mem_map.2 ⟨_, hMem, rfl⟩)
      rw [hRead, hGet]
    · exact hRest.given w other hTail
  left := by
    intro w hNone
    have hOther : v ≠ w := by
      rintro rfl
      exact hNone text List.mem_cons_self
    rw [hRest.left w, Variable.get_set_other hOther]
    intro other hMem
    exact hNone other (List.mem_cons_of_mem _ hMem)
  beyond := by
    rw [hRest.beyond, Variable.beyondVariables_set]

/- Other names change nothing, wherever they are. -/
theorem cons_other
    {key : String}
    (text : String)
    (hOther : ∀ v : Variable, key ≠ v.key)
    (hRest : c.IsChangedBy environment c') :
    c.IsChangedBy ((key, text) :: environment) c' where
  given := by
    intro v other hMem
    rcases List.mem_cons.1 hMem with hHead | hTail
    · exact absurd (congrArg Prod.fst hHead).symm (hOther v)
    · exact hRest.given v other hTail
  left := by
    intro v hNone
    apply hRest.left v
    intro other hMem
    exact hNone other (List.mem_cons_of_mem _ hMem)
  beyond := hRest.beyond

/- There is only one such configuration. -/
theorem unique
    (hOne : c.IsChangedBy environment c')
    (hTwo : c.IsChangedBy environment c'') :
    c' = c'' := by
  apply Variable.eq_of_get_eq
  · rw [hOne.beyond, hTwo.beyond]
  · intro v
    by_cases hSome : ∃ text, (v.key, text) ∈ environment
    · obtain ⟨text, hMem⟩ := hSome
      apply Option.some.inj
      rw [← hOne.given v text hMem, hTwo.given v text hMem]
    · have hNone := not_exists.1 hSome
      rw [hOne.left v hNone, hTwo.left v hNone]

/- The order of an environment does not matter for this. -/
theorem of_perm
    (hPerm : environment.Perm environment')
    (hChanged : c.IsChangedBy environment' c') :
    c.IsChangedBy environment c' where
  given := fun v text hMem =>
    hChanged.given v text (hPerm.mem_iff.1 hMem)
  left := fun v hNone =>
    hChanged.left v fun text hMem =>
      hNone text (hPerm.mem_iff.2 hMem)
  beyond := hChanged.beyond

end IsChangedBy

/- A variable of an environment has a text it cannot use. -/
def HasUnreadable
    (environment : List (String × String)) : Prop :=
  ∃ (v : Variable) (text : String),
    (v.key, text) ∈ environment ∧ v.read? text = none

/- A text that cannot be used ends this, wherever it is. -/
theorem overrideAll_fails
    (hBad : HasUnreadable environment)
    (c : Config) :
    ∃ e, (c.overrideAll environment).1 = .error e := by
  obtain ⟨v, text, hMem, hNone⟩ := hBad
  induction environment generalizing c with
  | nil => cases hMem
  | cons entry rest ih =>
      unfold overrideAll
      rcases List.mem_cons.1 hMem with rfl | hTail
      · rw [Variable.override_key, hNone]
        exact ⟨_, rfl⟩
      · cases c.override entry.1 entry.2 with
        | error e => exact ⟨e, rfl⟩
        | ok c' => exact ih c' hTail

/- If there is none, all variables have their settings. -/
theorem isChangedBy_of_overrideAll
    (hGood : ¬HasUnreadable environment)
    (hNames : (environment.map Prod.fst).Nodup)
    (c : Config) :
    ∃ c',
      c.overrideAll environment = (.ok (), c') ∧
      c.IsChangedBy environment c' := by
  induction environment generalizing c with
  | nil => exact ⟨c, rfl, .nil⟩
  | cons entry rest ih =>
      obtain ⟨key, text⟩ := entry
      obtain ⟨hOnce, hRest⟩ := List.nodup_cons.1 hNames
      have hTail : ¬HasUnreadable rest := by
        rintro ⟨v, other, hMem, hNone⟩
        exact hGood
          ⟨v, other, List.mem_cons_of_mem _ hMem, hNone⟩
      unfold overrideAll
      by_cases hKey : ∃ v : Variable, key = v.key
      · obtain ⟨v, rfl⟩ := hKey
        rw [Variable.override_key]
        cases hRead : v.read? text with
        | none =>
            exact absurd
              ⟨v, text, List.mem_cons_self, hRead⟩ hGood
        | some a =>
            obtain ⟨c', hRun, hChanged⟩ :=
              ih hTail hRest (v.set a c)
            exact ⟨c', hRun, .cons_key hRead hOnce hChanged⟩
      · have hOther := not_exists.1 hKey
        rw [Variable.override_of_other c text hOther]
        obtain ⟨c', hRun, hChanged⟩ := ih hTail hRest c
        exact ⟨c', hRun, .cons_other text hOther hChanged⟩

/- Variables cannot be used exactly if one of them cannot. -/
theorem overrideAll_fails_iff
    (hNames : (environment.map Prod.fst).Nodup)
    (c : Config) :
    (∃ e, (c.overrideAll environment).1 = .error e) ↔
      HasUnreadable environment := by
  constructor
  · rintro ⟨e, hError⟩
    apply Classical.byContradiction
    intro hGood
    obtain ⟨c', hRun, -⟩ :=
      isChangedBy_of_overrideAll hGood hNames c
    rw [hRun] at hError
    cases hError
  · exact fun hBad => overrideAll_fails hBad c

/-
  In all orders of an environment its variables either have
  their settings, and nothing else is changed, or cannot be
  used.  The latter holds exactly if one of them has a text
  that its setting cannot be.
-/
theorem overrideAll_in_any_order
    (hNames : (environment.map Prod.fst).Nodup)
    (hOrder : environment.Perm environment')
    (c : Config) :
    ((∃ c',
        c.overrideAll environment = (.ok (), c') ∧
        c.overrideAll environment' = (.ok (), c') ∧
        c.IsChangedBy environment c') ∨
      (∃ e e',
        (c.overrideAll environment).1 = .error e ∧
        (c.overrideAll environment').1 = .error e')) ∧
    ((∃ e, (c.overrideAll environment).1 = .error e) ↔
      HasUnreadable environment) := by
  have hNames' : (environment'.map Prod.fst).Nodup :=
    (hOrder.map Prod.fst).nodup_iff.1 hNames
  have hFails := overrideAll_fails_iff hNames c
  refine ⟨?_, hFails⟩
  by_cases hBad : HasUnreadable environment
  · have hBad' : HasUnreadable environment' := by
      obtain ⟨v, text, hMem, hNone⟩ := hBad
      exact ⟨v, text, hOrder.mem_iff.1 hMem, hNone⟩
    obtain ⟨e, hError⟩ := overrideAll_fails hBad c
    obtain ⟨e', hError'⟩ := overrideAll_fails hBad' c
    exact .inr ⟨e, e', hError, hError'⟩
  · have hGood' : ¬HasUnreadable environment' := by
      rintro ⟨v, text, hMem, hNone⟩
      exact hBad ⟨v, text, hOrder.mem_iff.2 hMem, hNone⟩
    obtain ⟨c', hRun, hChanged⟩ :=
      isChangedBy_of_overrideAll hBad hNames c
    obtain ⟨c'', hRun', hChanged'⟩ :=
      isChangedBy_of_overrideAll hGood' hNames' c
    obtain rfl := hChanged.unique (.of_perm hOrder hChanged')
    exact .inl ⟨c', hRun, hRun', hChanged⟩

/- A flag, a port, and something else. -/
def threeVariables : List (String × String) :=
  [("CMDLINK_TLS", " true"), ("CMDLINK_WEB_PORT", "81"),
    ("HOME", "/")]

/- A flag and a port that are set in two orders. -/
theorem overrideAll_in_any_order_reverse :
    ∃ c',
      default.overrideAll threeVariables = (.ok (), c') ∧
      default.overrideAll threeVariables.reverse =
        (.ok (), c') ∧
      c'.tls.enabled = true ∧
      c'.webPort = 81 := by
  have hNames : (threeVariables.map Prod.fst).Nodup := by
    decide
  have hOrder : threeVariables.Perm threeVariables.reverse :=
    (List.reverse_perm _).symm
  obtain
      ⟨⟨c', hRun, hBack, hChanged⟩ | ⟨_, _, hError, -⟩, -⟩ :=
    overrideAll_in_any_order hNames hOrder default
  · have hTls := hChanged.given .tls " true" (by decide)
    have hPort := hChanged.given .webPort "81" (by decide)
    refine ⟨c', hRun, hBack, ?_, ?_⟩
    · exact (Option.some.inj hTls).symm
    · exact (Option.some.inj hPort).symm
  · cases hError

end Config

end Courier
