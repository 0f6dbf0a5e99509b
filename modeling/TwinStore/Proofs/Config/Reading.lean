/-
**What an address says.** Whether the address that a client is given determines the server, the
database and the credentials of a configuration.

* `Target`: what an address is there to say.
* `Plain`: no field could end earlier than it does. `plain_of_unmarked`: none could if they do not
  hold the marks that end them.
* `target_unique` and `exists_plain`, for either system: every address of a valid configuration is
  that of a plain one, and of no other target's.
* `address_determines_iff` joins them; `not_address_determines` are addresses that say two things.
-/

import TwinStore.Proofs.Config.Address

namespace TwinStore

/-! ### Valid configurations -/

/-- Two checks pass if each of them does. -/
theorem checks_eq_ok {first second : Except ConfigFault Unit} :
    (first >>= fun _ => second) = .ok () ↔ first = .ok () ∧ second = .ok () := by
  rw [Result.bind_eq_ok]
  exact ⟨fun ⟨(), one, two⟩ => ⟨one, two⟩, fun ⟨one, two⟩ => ⟨(), one, two⟩⟩

theorem ConfigFault.reject_eq_ok {fault : ConfigFault} {present : Bool} :
    fault.reject present = .ok () ↔ present = false := by
  cases present <;> simp [ConfigFault.reject]

theorem Endpoint.check_eq_ok {endpoint : Endpoint} : endpoint.check = .ok () ↔
    endpoint.host ≠ "" ∧ endpoint.port ≠ 0 ∧ endpoint.database ≠ "" ∧
      endpoint.maxConnections ≠ 0 ∧ endpoint.minConnections ≤ endpoint.maxConnections ∧
        endpoint.connectionTimeout ≠ 0 := by
  simp [Endpoint.check, checks_eq_ok, ConfigFault.reject_eq_ok]

theorem PostgresConfig.check_eq_ok {settings : PostgresConfig} : settings.check = .ok () ↔
    settings.toEndpoint.check = .ok () ∧ settings.username ≠ "" ∧ settings.minConnections ≠ 0 := by
  simp [PostgresConfig.check, checks_eq_ok, ConfigFault.reject_eq_ok]

theorem MongoConfig.check_eq_ok {settings : MongoConfig} : settings.check = .ok () ↔
    settings.toEndpoint.check = .ok () ∧ (settings.username = none → settings.password = none) := by
  rw [MongoConfig.check, checks_eq_ok, ConfigFault.reject_eq_ok]
  cases settings.username <;> simp

/-! ### Targets -/

/-- What an address is there to say: server, database and credentials. A MongoDB address names the
database of the credentials instead of the configured one. -/
inductive Target where
  | postgres (host : String) (port : UInt16) (database username password : String)
  | mongo (host : String) (port : UInt16) (username password authSource : Option String)
  deriving DecidableEq

def PostgresConfig.target (settings : PostgresConfig) : Target :=
  .postgres settings.host settings.port settings.database settings.username settings.password

def MongoConfig.target (settings : MongoConfig) : Target :=
  .mongo settings.host settings.port settings.username settings.password settings.authSource

def Config.target : Config → Target
  | postgres settings => settings.target
  | mongo settings => settings.target

theorem toList_ne_nil {text : String} : text.toList ≠ [] ↔ text ≠ "" := by
  rw [Ne, String.toList_eq_nil_iff]

theorem exists_text {list : List Char} (some_ : list ≠ []) :
    ∃ text : String, text.toList = list ∧ text ≠ "" :=
  ⟨String.ofList list, String.toList_ofList, by rwa [← toList_ne_nil, String.toList_ofList]⟩

/-! ### PostgreSQL -/

namespace PostgresConfig

variable {settings : PostgresConfig}

/-- The text of an address. -/
theorem toList_connectionString (settings : PostgresConfig) : settings.connectionString.toList =
    "postgresql://".toList ++ (settings.username.toList ++ ':' :: (settings.password.toList ++
      '@' :: (settings.host.toList ++ (portText settings.port ++ settings.database.toList)))) := by
  have colon : ":".toList = [':'] := rfl
  have at_ : "@".toList = ['@'] := rfl
  have slash : "/".toList = ['/'] := rfl
  unfold connectionString Endpoint.address
  simp only [String.toList_append, String.toList_ofList, colon, at_, slash, portText,
    List.append_assoc, List.cons_append, List.nil_append]

/-- No field can be read shorter than it is: the name does not hold the colon behind it, except as
its first character, the password not the mark behind it, and the host no port. -/
structure Plain (settings : PostgresConfig) : Prop where
  username : ':' ∉ settings.username.toList.tail
  password : '@' ∉ settings.password.toList
  host : ¬HoldsPort [] settings.host.toList

/-- No field is read shorter that does not hold the mark behind it. -/
theorem plain_of_unmarked (username : ':' ∉ settings.username.toList)
    (password : '@' ∉ settings.password.toList) (host : '/' ∉ settings.host.toList) :
    settings.Plain :=
  ⟨fun member => username (List.mem_of_mem_tail member), password, not_holdsPort_of_not_mem host⟩

/-- **The address of plain configurations determines the target.** -/
theorem target_unique {first second : PostgresConfig} (valid : first.check = .ok ())
    (also : second.check = .ok ()) (plain : first.Plain) (alsoPlain : second.Plain)
    (same : first.connectionString = second.connectionString) : first.target = second.target := by
  have opens : ∀ rest, Opens [] rest := fun rest => .inr ⟨rest, rfl⟩
  obtain ⟨sound, named, -⟩ := check_eq_ok.mp valid
  obtain ⟨host, port, -⟩ := Endpoint.check_eq_ok.mp sound
  obtain ⟨sound, alsoNamed, -⟩ := check_eq_ok.mp also
  obtain ⟨alsoHost, alsoPort, -⟩ := Endpoint.check_eq_ok.mp sound
  obtain ⟨initial, name, begins⟩ := List.exists_cons_of_ne_nil (toList_ne_nil.mpr named)
  obtain ⟨letter, word, alsoBegins⟩ := List.exists_cons_of_ne_nil (toList_ne_nil.mpr alsoNamed)
  have short := plain.username
  have alsoShort := alsoPlain.username
  rw [begins, List.tail_cons] at short
  rw [alsoBegins, List.tail_cons] at alsoShort
  have texts := congrArg String.toList same
  rw [toList_connectionString, toList_connectionString, begins, alsoBegins] at texts
  obtain ⟨initials, behind⟩ := List.cons.inj (List.append_cancel_left texts)
  obtain ⟨names, behind⟩ := first_unique short alsoShort behind
  obtain ⟨passwords, behind⟩ := first_unique plain.password alsoPlain.password behind
  obtain ⟨hosts, ports, databases⟩ := host_unique (by simp) (toList_ne_nil.mpr host)
    (toList_ne_nil.mpr alsoHost) port alsoPort (opens _) (opens _) plain.host alsoPlain.host behind
  rw [← initials, ← names] at alsoBegins
  rw [target, target, String.toList_inj.mp hosts, ports, String.toList_inj.mp databases,
    String.toList_inj.mp (begins.trans alsoBegins.symm), String.toList_inj.mp passwords]

/-- **Every address of a valid configuration is that of a plain one.** -/
theorem exists_plain (valid : settings.check = .ok ()) : ∃ plain : PostgresConfig,
    plain.check = .ok () ∧ plain.Plain ∧ plain.connectionString = settings.connectionString := by
  obtain ⟨sound, named, minimum⟩ := check_eq_ok.mp valid
  obtain ⟨there, used, some_, pool⟩ := Endpoint.check_eq_ok.mp sound
  obtain ⟨initial, name, begins⟩ := List.exists_cons_of_ne_nil (toList_ne_nil.mpr named)
  -- the name is cut at its first colon, the password at its first mark, the host at its first port
  obtain ⟨short, secret, unmarked, -, cutName⟩ := exists_first ':' name settings.password.toList
  obtain ⟨word, address, hidden, suffix, cutPassword⟩ :=
    exists_first '@' secret settings.host.toList
  have address_ne : address ≠ [] := fun none_ =>
    toList_ne_nil.mpr there (List.eq_nil_of_suffix_nil (none_ ▸ suffix))
  obtain ⟨front, port, behind, front_ne, counts, alone, ends, cutHost⟩ :=
    exists_host [] settings.database.toList address_ne used
  have behind_ne : behind ≠ [] := by
    rcases ends with rfl | ⟨back, back_ne, rfl⟩
    · exact toList_ne_nil.mpr some_
    · exact back_ne
  obtain ⟨username, spelled, username_ne⟩ := exists_text (List.cons_ne_nil initial short)
  obtain ⟨host, rfl, host_ne⟩ := exists_text front_ne
  obtain ⟨database, rfl, database_ne⟩ := exists_text behind_ne
  obtain ⟨password, rfl⟩ : ∃ password : String, word = password.toList :=
    ⟨_, String.toList_ofList.symm⟩
  refine ⟨{ settings with host, port, database, username, password }, ?_,
    ⟨by rwa [spelled], hidden, alone⟩, ?_⟩
  · exact check_eq_ok.mpr
      ⟨Endpoint.check_eq_ok.mpr ⟨host_ne, counts, database_ne, pool⟩, username_ne, minimum⟩
  · rw [← String.toList_inj, toList_connectionString, toList_connectionString, begins]
    dsimp only
    rw [spelled, cutHost]
    have passwords := congrArg (· ++ (portText settings.port ++ settings.database.toList))
      cutPassword
    have names := congrArg (· ++ '@' :: (settings.host.toList ++
      (portText settings.port ++ settings.database.toList))) cutName
    simp only [List.append_assoc, List.cons_append] at passwords names ⊢
    rw [passwords, names]

end PostgresConfig

/-! ### Credentials -/

/-- A name, and a password behind a colon if there is one. -/
def loginText (username : String) (password : Option String) : List Char :=
  username.toList ++ password.elim [] fun word => ':' :: word.toList

/-- What holds no mark in its name or its password holds none but the colon between them. -/
theorem not_mem_loginText {mark : Char} (other : mark ≠ ':') {username : String}
    {password : Option String} (inName : mark ∉ username.toList)
    (inWord : ∀ word ∈ password, mark ∉ word.toList) : mark ∉ loginText username password := by
  intro member
  rcases List.mem_append.mp member with name | behind
  · exact inName name
  · cases password with
    | none => cases behind
    | some word => exact inWord word rfl ((List.mem_cons.mp behind).resolve_left other)

/-- A name without colons and its password are read in one way. -/
theorem loginText_inj {first second : String} {password word : Option String}
    (unmarked : ':' ∉ first.toList) (also : ':' ∉ second.toList)
    (same : loginText first password = loginText second word) :
    first = second ∧ password = word := by
  unfold loginText at same
  cases password with
  | none =>
    cases word with
    | none =>
      simp only [Option.elim_none, List.append_nil] at same
      exact ⟨String.toList_inj.mp same, rfl⟩
    | some word =>
      simp only [Option.elim_none, Option.elim_some, List.append_nil] at same
      exact absurd (same ▸ List.mem_append_right _ List.mem_cons_self) unmarked
  | some password =>
    cases word with
    | none =>
      simp only [Option.elim_none, Option.elim_some, List.append_nil] at same
      exact absurd (same ▸ List.mem_append_right _ List.mem_cons_self) also
    | some word =>
      obtain ⟨names, words⟩ := first_unique unmarked also same
      exact ⟨String.toList_inj.mp names, congrArg some (String.toList_inj.mp words)⟩

/-- Every text can be read as a name without colons and what stands behind it. -/
theorem exists_login (text : List Char) : ∃ username password,
    loginText username password = text ∧ ':' ∉ username.toList := by
  by_cases marked : ':' ∈ text
  · obtain ⟨name, word, rfl, unmarked⟩ := List.eq_append_cons_of_mem marked
    refine ⟨String.ofList name, some (String.ofList word), ?_, ?_⟩
    · rw [loginText, Option.elim_some, String.toList_ofList, String.toList_ofList]
    · rwa [String.toList_ofList]
  · refine ⟨String.ofList text, none, ?_, ?_⟩
    · rw [loginText, Option.elim_none, String.toList_ofList, List.append_nil]
    · rwa [String.toList_ofList]

/-- What stands in front of a port: credentials if there is a name, then a host. -/
def frontText (username password : Option String) (host : List Char) : List Char :=
  (username.elim [] fun name => loginText name password ++ ['@']) ++ host

/-- None of them can be read shorter than it is: a name holds no colon, a name and a password not
the mark behind them, and a host alone does not look like one behind credentials. -/
structure PlainFront (username password : Option String) (host : List Char) : Prop where
  name_plain : ∀ name ∈ username, ':' ∉ name.toList
  login_plain : ∀ name ∈ username, '@' ∉ loginText name password
  host_plain : username = none → ∀ front back, host = front ++ '@' :: back → back = []

/-- **What stands in front of a port is read in one way.** -/
theorem frontText_inj {first second password word : Option String} {host other : List Char}
    (there : host ≠ []) (alsoThere : other ≠ []) (secret : first = none → password = none)
    (alsoSecret : second = none → word = none) (plain : PlainFront first password host)
    (alsoPlain : PlainFront second word other)
    (same : frontText first password host = frontText second word other) :
    first = second ∧ password = word ∧ host = other := by
  unfold frontText at same
  cases first with
  | none =>
    cases second with
    | none => exact ⟨rfl, (secret rfl).trans (alsoSecret rfl).symm, same⟩
    | some name =>
      rw [Option.elim_none, Option.elim_some, List.append_assoc] at same
      exact absurd (plain.host_plain rfl _ _ same) alsoThere
  | some name =>
    cases second with
    | none =>
      rw [Option.elim_none, Option.elim_some, List.append_assoc] at same
      exact absurd (alsoPlain.host_plain rfl _ _ same.symm) there
    | some login =>
      rw [Option.elim_some, Option.elim_some, List.append_assoc, List.append_assoc] at same
      obtain ⟨logins, hosts⟩ :=
        first_unique (plain.login_plain name rfl) (alsoPlain.login_plain login rfl) same
      obtain ⟨rfl, words⟩ :=
        loginText_inj (plain.name_plain name rfl) (alsoPlain.name_plain login rfl) logins
      exact ⟨rfl, words, hosts⟩

/-- **Every text can be read so.** -/
theorem exists_front {text : List Char} (some_ : text ≠ []) : ∃ username password host,
    frontText username password host = text ∧ host ≠ [] ∧ (username = none → password = none) ∧
      PlainFront username password host := by
  by_cases marked : ∃ front back, back ≠ [] ∧ text = front ++ '@' :: back
  · obtain ⟨front, back, back_ne, rfl⟩ := marked
    obtain ⟨login, host, hidden, suffix, cut⟩ := exists_first '@' front back
    have host_ne : host ≠ [] := fun none_ => back_ne (List.eq_nil_of_suffix_nil (none_ ▸ suffix))
    obtain ⟨name, password, rfl, unmarked⟩ := exists_login login
    refine ⟨some name, password, host, ?_, host_ne, nofun, ?_, ?_, nofun⟩
    · rw [frontText, Option.elim_some, List.append_assoc]
      exact cut
    · rintro _ ⟨⟩
      exact unmarked
    · rintro _ ⟨⟩
      exact hidden
  · refine ⟨none, none, text, rfl, some_, fun _ => rfl, nofun, nofun, fun _ front back cut => ?_⟩
    by_contra back_ne
    exact marked ⟨front, back, back_ne, cut⟩

/-! ### MongoDB -/

/-- What names the database that holds the credentials. -/
def sourceOpening : List Char := "?authSource=".toList

/-- What stands behind the slash of an address. -/
def sourceText (source : Option String) : List Char :=
  source.elim [] fun name => sourceOpening ++ name.toList

theorem opens_sourceText (source : Option String) : Opens sourceOpening (sourceText source) := by
  cases source with
  | none => exact .inl rfl
  | some name => exact .inr ⟨name.toList, rfl⟩

theorem sourceText_inj {first second : Option String}
    (same : sourceText first = sourceText second) : first = second := by
  have opened : ∀ name : String, sourceOpening ++ name.toList ≠ [] := fun name =>
    List.append_ne_nil_of_left_ne_nil (by decide) _
  cases first with
  | none =>
    cases second with
    | none => rfl
    | some name => exact absurd same.symm (opened name)
  | some name =>
    cases second with
    | none => exact absurd same (opened name)
    | some other => exact congrArg some (String.toList_inj.mp (List.append_cancel_left same))

namespace MongoConfig

variable {settings : MongoConfig}

/-- The text of an address. -/
theorem toList_connectionString (settings : MongoConfig) : settings.connectionString.toList =
    "mongodb://".toList ++ (frontText settings.username settings.password settings.host.toList ++
      (portText settings.port ++ sourceText settings.authSource)) := by
  have colon : ":".toList = [':'] := rfl
  have at_ : "@".toList = ['@'] := rfl
  have slash : "/".toList = ['/'] := rfl
  have front : settings.credentials.toList ++ settings.host.toList =
      frontText settings.username settings.password settings.host.toList := by
    unfold credentials frontText
    cases settings.username <;> cases settings.password <;>
      simp [loginText, String.toList_append, colon, at_]
  have source : ((settings.authSource.map ("?authSource=" ++ ·)).getD "").toList =
      sourceText settings.authSource := by
    cases settings.authSource with
    | none => rfl
    | some name => exact String.toList_append
  unfold connectionString Endpoint.address
  rw [← front]
  simp only [String.toList_append, String.toList_ofList, colon, slash, source, portText,
    List.append_assoc, List.cons_append, List.nil_append]

/-- No field can be read shorter than it is; nor does what stands in front of the port hold a port
with a source behind it. -/
structure Plain (settings : MongoConfig) : Prop where
  front : PlainFront settings.username settings.password settings.host.toList
  port : ¬HoldsPort sourceOpening
    (frontText settings.username settings.password settings.host.toList)

/-- No field is read shorter if none holds a mark. -/
theorem plain_of_unmarked
    (username : ∀ name ∈ settings.username,
      ':' ∉ name.toList ∧ '@' ∉ name.toList ∧ '/' ∉ name.toList)
    (password : ∀ word ∈ settings.password, '@' ∉ word.toList ∧ '/' ∉ word.toList)
    (host : '@' ∉ settings.host.toList ∧ '/' ∉ settings.host.toList) : settings.Plain := by
  refine ⟨⟨fun name named => (username name named).1, fun name named => ?_, ?_⟩,
    not_holdsPort_of_not_mem fun member => ?_⟩
  · exact not_mem_loginText (by decide) (username name named).2.1 fun word known =>
      (password word known).1
  · rintro - front back cut
    exact absurd (cut ▸ List.mem_append_right _ List.mem_cons_self) host.1
  · rcases List.mem_append.mp member with credentials | inHost
    · cases known : settings.username with
      | none =>
        rw [known] at credentials
        cases credentials
      | some name =>
        rw [known, Option.elim_some, List.mem_append, List.mem_singleton] at credentials
        exact not_mem_loginText (by decide) (username name known).2.2
          (fun word given => (password word given).2) (credentials.resolve_right (by decide))
    · exact host.2 inHost

theorem frontText_ne_nil (valid : settings.check = .ok ()) :
    frontText settings.username settings.password settings.host.toList ≠ [] := by
  obtain ⟨there, -⟩ := Endpoint.check_eq_ok.mp (check_eq_ok.mp valid).1
  exact List.append_ne_nil_of_right_ne_nil _ (toList_ne_nil.mpr there)

/-- **The address of plain configurations determines the target.** -/
theorem target_unique {first second : MongoConfig} (valid : first.check = .ok ())
    (also : second.check = .ok ()) (plain : first.Plain) (alsoPlain : second.Plain)
    (same : first.connectionString = second.connectionString) : first.target = second.target := by
  obtain ⟨sound, secret⟩ := check_eq_ok.mp valid
  obtain ⟨host, port, -⟩ := Endpoint.check_eq_ok.mp sound
  obtain ⟨alsoSound, alsoSecret⟩ := check_eq_ok.mp also
  obtain ⟨alsoHost, alsoPort, -⟩ := Endpoint.check_eq_ok.mp alsoSound
  have texts := congrArg String.toList same
  rw [toList_connectionString, toList_connectionString] at texts
  obtain ⟨fronts, ports, sources⟩ := host_unique (by decide) (frontText_ne_nil valid)
    (frontText_ne_nil also) port alsoPort (opens_sourceText _) (opens_sourceText _) plain.port
    alsoPlain.port (List.append_cancel_left texts)
  obtain ⟨usernames, passwords, hosts⟩ := frontText_inj (toList_ne_nil.mpr host)
    (toList_ne_nil.mpr alsoHost) secret alsoSecret plain.front alsoPlain.front fronts
  rw [target, target, usernames, passwords, String.toList_inj.mp hosts, ports,
    sourceText_inj sources]

/-- **Every address of a valid configuration is that of a plain one.** -/
theorem exists_plain (valid : settings.check = .ok ()) : ∃ plain : MongoConfig,
    plain.check = .ok () ∧ plain.Plain ∧ plain.connectionString = settings.connectionString := by
  obtain ⟨-, used, some_, pool⟩ := Endpoint.check_eq_ok.mp (check_eq_ok.mp valid).1
  obtain ⟨front, port, behind, front_ne, counts, alone, ends, cut⟩ :=
    exists_host sourceOpening (sourceText settings.authSource) (frontText_ne_nil valid) used
  obtain ⟨authSource, rfl⟩ : ∃ authSource, behind = sourceText authSource := by
    rcases ends with rfl | ⟨back, -, rfl⟩
    · exact ⟨_, rfl⟩
    · refine ⟨some (String.ofList back), ?_⟩
      rw [sourceText, Option.elim_some, String.toList_ofList]
  obtain ⟨username, password, text, rfl, text_ne, secret, plain⟩ := exists_front front_ne
  obtain ⟨host, rfl⟩ : ∃ host : String, text = host.toList := ⟨_, String.toList_ofList.symm⟩
  refine ⟨{ settings with host, port, username, password, authSource }, ?_, ⟨plain, alone⟩, ?_⟩
  · exact check_eq_ok.mpr
      ⟨Endpoint.check_eq_ok.mpr ⟨toList_ne_nil.mp text_ne, counts, some_, pool⟩, secret⟩
  · rw [← String.toList_inj, toList_connectionString, toList_connectionString]
    exact congrArg _ cut

end MongoConfig

/-! ### Either system -/

namespace Config

/-- No field can be read shorter than it is. -/
def Plain : Config → Prop
  | postgres settings => settings.Plain
  | mongo settings => settings.Plain

/-- That depends on nothing but the target. -/
theorem plain_of_target {first second : Config} (same : first.target = second.target)
    (plain : first.Plain) : second.Plain := by
  cases first with
  | postgres first =>
    cases second with
    | postgres second =>
      obtain ⟨host, -, -, username, password⟩ := Target.postgres.inj same
      obtain ⟨name, word, front⟩ := plain
      exact ⟨username ▸ name, password ▸ word, host ▸ front⟩
    | mongo second => cases same
  | mongo first =>
    cases second with
    | postgres second => cases same
    | mongo second =>
      obtain ⟨host, -, username, password, -⟩ := Target.mongo.inj same
      obtain ⟨front, port⟩ := plain
      exact ⟨host ▸ username ▸ password ▸ front, host ▸ username ▸ password ▸ port⟩

/-- The addresses of the two systems begin differently. -/
theorem connectionString_ne (postgres : PostgresConfig) (mongo : MongoConfig) :
    postgres.connectionString ≠ mongo.connectionString := by
  intro same
  have texts := congrArg String.toList same
  rw [postgres.toList_connectionString, mongo.toList_connectionString] at texts
  exact absurd (List.cons.inj texts).1 (by decide)

/-- **Plain configurations are told apart by their addresses.** -/
theorem target_unique {first second : Config} (valid : first.check = .ok ())
    (also : second.check = .ok ()) (plain : first.Plain) (alsoPlain : second.Plain)
    (same : first.connectionString = second.connectionString) : first.target = second.target := by
  cases first with
  | postgres first =>
    cases second with
    | postgres second => exact PostgresConfig.target_unique valid also plain alsoPlain same
    | mongo second => exact absurd same (connectionString_ne first second)
  | mongo first =>
    cases second with
    | postgres second => exact absurd same.symm (connectionString_ne second first)
    | mongo second => exact MongoConfig.target_unique valid also plain alsoPlain same

theorem exists_plain {config : Config} (valid : config.check = .ok ()) : ∃ plain : Config,
    plain.check = .ok () ∧ plain.Plain ∧ plain.connectionString = config.connectionString := by
  cases config with
  | postgres settings =>
    obtain ⟨plain, known⟩ := PostgresConfig.exists_plain valid
    exact ⟨.postgres plain, known⟩
  | mongo settings =>
    obtain ⟨plain, known⟩ := MongoConfig.exists_plain valid
    exact ⟨.mongo plain, known⟩

/-- **When the address of a configuration determines its target** among those of all plain ones:
exactly if the configuration is plain itself. In any case there is one plain configuration of the
address, so the others share it with one of another target. -/
theorem address_determines_iff {config : Config} (valid : config.check = .ok ()) :
    (config.Plain ↔ ∀ other : Config, other.check = .ok () → other.Plain →
      other.connectionString = config.connectionString → other.target = config.target) ∧
    ∃ plain : Config, plain.check = .ok () ∧ plain.Plain ∧
      plain.connectionString = config.connectionString := by
  obtain ⟨plain, sound, shortest, same⟩ := exists_plain valid
  refine ⟨⟨fun already other also alsoPlain equal => ?_, fun determined => ?_⟩,
    plain, sound, shortest, same⟩
  · exact target_unique also valid alsoPlain already equal
  · exact plain_of_target (determined plain sound shortest same) shortest

end Config

/-- A server on this machine. -/
def localPostgres : PostgresConfig where
  host := "localhost"
  port := 5432
  database := "app"
  minConnections := 1
  maxConnections := 10
  connectionTimeout := 30
  username := "app"
  password := "a:b/c?"
  idleTimeout := 600
  maxLifetime := 3600

/-- The same, with the credentials in a database of their own. -/
def localMongo : MongoConfig where
  toEndpoint := localPostgres.toEndpoint
  username := some "app"
  password := some "a:b?"
  authSource := some "admin"

/-- Passwords with marks that do not end them. More connections make no other address. -/
theorem Config.address_determines_iff_local :
    ((Config.postgres localPostgres).check = .ok () ∧ localPostgres.Plain ∧
      (Config.postgres { localPostgres with maxConnections := 20 }).target =
        (Config.postgres localPostgres).target) ∧
    (Config.mongo localMongo).check = .ok () ∧ localMongo.Plain ∧
      (Config.mongo { localMongo with maxConnections := 20 }).target =
        (Config.mongo localMongo).target := by
  have valid : localPostgres.check = .ok () ∧ localMongo.check = .ok () := by decide +kernel
  have also : PostgresConfig.check { localPostgres with maxConnections := 20 } = .ok () ∧
      MongoConfig.check { localMongo with maxConnections := 20 } = .ok () := by decide +kernel
  have plain : localPostgres.Plain :=
    PostgresConfig.plain_of_unmarked (by decide) (by decide) (by decide)
  have alsoPlain : PostgresConfig.Plain { localPostgres with maxConnections := 20 } :=
    PostgresConfig.plain_of_unmarked (by decide) (by decide) (by decide)
  have plainMongo : localMongo.Plain :=
    MongoConfig.plain_of_unmarked (by rintro _ ⟨⟩; decide) (by rintro _ ⟨⟩; decide) (by decide)
  have alsoPlainMongo : MongoConfig.Plain { localMongo with maxConnections := 20 } :=
    MongoConfig.plain_of_unmarked (by rintro _ ⟨⟩; decide) (by rintro _ ⟨⟩; decide) (by decide)
  have one := (@Config.address_determines_iff (.postgres localPostgres) valid.1).1.mp plain
  have two := (@Config.address_determines_iff (.mongo localMongo) valid.2).1.mp plainMongo
  exact ⟨⟨valid.1, plain,
      one (.postgres { localPostgres with maxConnections := 20 }) also.1 alsoPlain rfl⟩,
    valid.2, plainMongo,
    two (.mongo { localMongo with maxConnections := 20 }) also.2 alsoPlainMongo rfl⟩

/-- **A password that moves the address to another server**, and credentials that are two names. -/
theorem Config.not_address_determines :
    (∃ first second : PostgresConfig, first.check = .ok () ∧ second.check = .ok () ∧
      first = { localPostgres with password := "a@other:5432/app?" } ∧
      first.connectionString = second.connectionString ∧ first.host ≠ second.host) ∧
    ∃ first second : MongoConfig, first.check = .ok () ∧ second.check = .ok () ∧
      first.connectionString = second.connectionString ∧ first.username ≠ second.username := by
  refine ⟨⟨{ localPostgres with password := "a@other:5432/app?" },
      { localPostgres with
        password := "a"
        host := "other"
        database := "app?@localhost:5432/app" }, ?_, ?_, rfl, ?_, ?_⟩,
    ⟨{ localMongo with username := some "a:b", password := none },
      { localMongo with username := some "a", password := some "b" },
      ?_, ?_, ?_, ?_⟩⟩ <;> decide +kernel

end TwinStore
