import SealedToken.Proofs.Decisions
import SealedToken.Proofs.Identities
import SealedToken.Proofs.Issuing
import SealedToken.Proofs.Lines

/-!
Inspecting what was issued. A token printed by a run that issues is good up to its expiry time and
the tolerance, and expired from then on, and the report says so. The report also shows the expiry
time, which may be too long to be written although the two times it is the sum of are not.
-/

set_option autoImplicit false

namespace SealedToken

/-! ## JSON within the digit limit -/

namespace Json

variable {depth : Nat}

theorem exists_writeItems {items : List Json} :
    (∃ lines, writeItems depth items = .ok lines) ↔
      ∀ item ∈ items, ∃ line, write depth item = .ok line := by
  induction items with
  | nil => simp [writeItems]
  | cons item rest ih =>
    rw [List.forall_mem_cons, ← ih, writeItems]
    cases write depth item <;> cases writeItems depth rest <;>
      simp [bind, Except.bind, pure, Except.pure]

theorem exists_writeMembers {members : List (Text × Json)} :
    (∃ lines, writeMembers depth members = .ok lines) ↔
      ∀ member ∈ members, ∃ line, write depth member.2 = .ok line := by
  induction members with
  | nil => simp [writeMembers]
  | cons member rest ih =>
    obtain ⟨name, value⟩ := member
    rw [List.forall_mem_cons, ← ih, writeMembers]
    cases write depth value <;> cases writeMembers depth rest <;>
      simp [bind, Except.bind, pure, Except.pure]

@[simp] theorem exists_write_arr {items : List Json} :
    (∃ text, write depth (.arr items) = .ok text) ↔
      ∀ item ∈ items, ∃ line, write (depth + 1) item = .ok line := by
  rw [← exists_writeItems, write]
  cases writeItems (depth + 1) items <;> simp [bind, Except.bind, pure, Except.pure]

@[simp] theorem exists_write_obj {members : List (Text × Json)} :
    (∃ text, write depth (.obj members) = .ok text) ↔
      ∀ member ∈ members, ∃ line, write (depth + 1) member.2 = .ok line := by
  rw [← exists_writeMembers, write]
  cases writeMembers (depth + 1) members <;> simp [bind, Except.bind, pure, Except.pure]

@[simp] theorem exists_write_int {n : Int} :
    (∃ text, write depth (.int n) = .ok text) ↔ n.natAbs < Decimal.tenTo Decimal.digitLimit := by
  simp [write, Decimal.write?_eq_ok_iff]

@[simp] theorem exists_write_bool (value : Bool) : ∃ line, write depth (.bool value) = .ok line :=
  ⟨_, by rw [write]⟩

@[simp] theorem exists_write_text (value : Text) : ∃ line, write depth (.str value) = .ok line :=
  ⟨_, by rw [write]⟩

@[simp] theorem exists_write_textOrNull (value : Option Text) :
    ∃ line, write depth (.textOrNull value) = .ok line := by
  cases value with
  | none => exact ⟨_, by rw [textOrNull, write]⟩
  | some value => exact exists_write_text value

/-- The first two members of an object come first. -/
theorem prefix_write_obj {first second : Text × Json} {members : List (Text × Json)}
    {head next text : Text} (one : write (depth + 1) first.2 = .ok head)
    (two : write (depth + 1) second.2 = .ok next)
    (written : write depth (.obj (first :: second :: members)) = .ok text) :
    .char '\x7b' :: newline (depth + 1) ++ (writeString first.1 ++ Text.ofString ": " ++ head) ++
      (.char ',' :: newline (depth + 1) ++ (writeString second.1 ++ Text.ofString ": " ++ next)) <+:
        text := by
  simp only [write, writeMembers, one, two, bind, Except.bind, pure, Except.pure] at written
  cases later : writeMembers (depth + 1) members with
  | error exceeded =>
    rw [later] at written
    cases written
  | ok lines =>
    rw [later] at written
    obtain rfl := Except.ok.inj written
    simp [bracket]

end Json

/-! ## Records that can be written -/

theorem Decimal.lt_tenTo_digitLimit {n : Nat} (small : n ≤ digitLimit) : n < tenTo digitLimit :=
  Nat.lt_of_lt_of_le (lt_tenTo n) (tenTo_mono small)

namespace Token

/-- The expiry time is within the digit limit, as the two times it is the sum of are in a token that
can be written. -/
def Showable (token : Token) : Prop :=
  token.expiresAt.natAbs < Decimal.tenTo Decimal.digitLimit

theorem Showable.write?_expiresAt {token : Token} (showable : token.Showable) :
    Decimal.write? token.expiresAt = .ok (Decimal.ofInt token.expiresAt) :=
  Decimal.write?_eq_ok_iff.mpr ⟨showable, rfl⟩

theorem write?_expiresAt_of_not_showable {token : Token} (unshowable : ¬ token.Showable) :
    Decimal.write? token.expiresAt = .error .writing :=
  Decimal.write?_of_large unshowable

theorem exists_write_recordPart (contents : Contents) (part : Part) (depth : Nat) :
    ∃ line, Json.write depth (contents.recordPart part) = .ok line := by
  cases part <;> simp [Contents.recordPart, Role.record, Json.member]

theorem forall_mem_map_part (contents : Contents) (parts : List Part) (depth : Nat) :
    ∀ member ∈ parts.map fun part => Json.member part.argument (contents.recordPart part),
      ∃ line, Json.write depth member.2 = .ok line := by
  intro member listed
  obtain ⟨part, _, rfl⟩ := List.mem_map.mp listed
  exact exists_write_recordPart contents part depth

theorem record_of_writable {token : Token} (writable : token.Writable) :
    ∃ record, token.record = .ok record ∧
      ∀ depth, (∀ member ∈ record, ∃ line, Json.write depth member.2 = .ok line) ↔
        token.Showable := by
  refine ⟨token.recordFields ++
      token.variant.recorded.map (fun part =>
        Json.member part.argument (token.contents.recordPart part)) ++
      [Json.member "kind" (.str token.variant.kindName),
        Json.member "prefix" (.str token.variant.mark),
        Json.member "token_id" (.str (token.common.subject.getD [] ++
          .char ':' :: Decimal.ofInt token.common.issuedAt)),
        Json.member "expires_at" (.int token.expiresAt)], ?_, fun depth => ?_⟩
  · unfold record
    rw [id_of_short writable.issuedAt]
  · simp only [recordFields, List.forall_mem_append, List.forall_mem_cons, Json.member,
      Json.exists_write_int, Json.exists_write_text, Json.exists_write_textOrNull, true_and]
    constructor
    · rintro ⟨_, expiresAt, _⟩
      exact expiresAt
    · intro showable
      exact ⟨⟨⟨writable.issuedAt, writable.lifespan, List.forall_mem_nil _⟩,
        forall_mem_map_part _ _ depth⟩, showable, List.forall_mem_nil _⟩

end Token

namespace Cli.InspectArguments

/-- The report on a token can be written in JSON exactly if its expiry time can be. -/
theorem exists_jsonReport {verdict : Verdict} {token : Token} (held : verdict.token? = some token)
    (writable : token.Writable) :
    (∃ text, jsonReport verdict = .ok text) ↔ token.Showable := by
  obtain ⟨record, recorded, shows⟩ := Token.record_of_writable writable
  rw [← shows 2]
  simp [jsonReport, held, recorded, bind, Except.bind, Json.pretty, verdictMembers, Json.member]

/-- How a report begins. -/
def reportHead (json valid : Bool) (reason : Text) : Text :=
  if json then
    "\x7b\n  \"valid\": " ++ (if valid then Text.ofString "true" else Text.ofString "false") ++
      ",\n  \"reason\": \"" ++ reason ++ "\""
  else if valid then Transcript.line "✅ VALID"
  else Transcript.line ("❌ INVALID (" ++ reason ++ ")")

theorem reportHead_json : ∀ valid, ∀ reason ∈ [Text.ofString "ok", Text.ofString "expired"],
    reportHead true valid reason =
      .char '\x7b' :: Json.newline 1 ++ (Json.writeString "valid" ++ Text.ofString ": " ++
        (if valid then Text.ofString "true" else Text.ofString "false")) ++
      (.char ',' :: Json.newline 1 ++ (Json.writeString "reason" ++ Text.ofString ": " ++
        Json.writeString reason)) := by
  decide

/-- A JSON report on a token begins with the verdict. -/
theorem jsonReport_starts {verdict : Verdict} {token : Token} {text : Text}
    (held : verdict.token? = some token)
    (known : verdict.reason ∈ [Text.ofString "ok", Text.ofString "expired"])
    (written : jsonReport verdict = .ok text) :
    reportHead true verdict.valid verdict.reason <+: text := by
  have first : Json.write 1 (.bool verdict.valid) =
      .ok (if verdict.valid then Text.ofString "true" else Text.ofString "false") := by
    rw [Json.write]
  have second : Json.write 1 (.str verdict.reason) = .ok (Json.writeString verdict.reason) := by
    rw [Json.write]
  unfold jsonReport at written
  rw [held] at written
  dsimp only at written
  cases recorded : token.record with
  | error exceeded =>
    rw [recorded] at written
    cases written
  | ok record =>
    rw [recorded] at written
    rw [reportHead_json verdict.valid verdict.reason known]
    -- The members are named here, since unfolding the report to find them is slow.
    have starts := @Json.prefix_write_obj 0 (Json.member "valid" (.bool verdict.valid))
      (Json.member "reason" (.str verdict.reason)) [Json.member "token" (.obj record)] _ _
      text first second written
    exact starts

/-- A report on a token that is good or expired is whole if the expiry time can be written. -/
theorem report_of_showable {verdict : Verdict} {token : Token} (json : Bool)
    (held : verdict = .accepted token ∨ verdict = .expired token) (writable : token.Writable)
    (showable : token.Showable) :
    ∃ output, report json verdict = (output, none) ∧
      reportHead json verdict.valid verdict.reason <+: output := by
  have token? : verdict.token? = some token := by
    rcases held with rfl | rfl <;> rfl
  have reason : verdict.reason ∈ [Text.ofString "ok", Text.ofString "expired"] := by
    rcases held with rfl | rfl
    · exact List.mem_cons_self
    · exact List.mem_cons_of_mem _ List.mem_cons_self
  cases json with
  | true =>
    obtain ⟨text, written⟩ := (exists_jsonReport token? writable).mpr showable
    refine ⟨Transcript.line text, ?_, (jsonReport_starts token? reason written).trans
      (List.prefix_append _ _)⟩
    simp only [report, written, if_true]
  | false =>
    refine ⟨headline verdict ++ summary token ++
      labelled "   Expires: " (Decimal.ofInt token.expiresAt), ?_, ?_⟩
    · rw [report, if_neg Bool.false_ne_true]
      unfold plainReport
      rw [token?]
      dsimp only
      rw [showable.write?_expiresAt]
    · rw [List.append_assoc]
      exact List.prefix_append _ _

/-- A report on a token whose expiry time cannot be written breaks off. -/
theorem report_of_not_showable {verdict : Verdict} {token : Token} (json : Bool)
    (held : verdict.token? = some token) (writable : token.Writable)
    (unshowable : ¬ token.Showable) :
    ∃ output exceeded, report json verdict = (output, some exceeded) := by
  cases json with
  | true =>
    cases written : jsonReport verdict with
    | ok text => exact absurd ((exists_jsonReport held writable).mp ⟨text, written⟩) unshowable
    | error exceeded => exact ⟨[], exceeded, by simp only [report, written, if_true]⟩
  | false =>
    refine ⟨headline verdict ++ summary token, .writing, ?_⟩
    rw [report, if_neg Bool.false_ne_true]
    unfold plainReport
    rw [held]
    dsimp only
    rw [Token.write?_expiresAt_of_not_showable unshowable]

end Cli.InspectArguments

/-! ## Inspecting a token -/

namespace Verifier

variable {verifier : Verifier} {token : Token} {credential issuer : Option Text} {clock : Float}
  {now : Int}

theorem admits_of_allowed_none (unlisted : verifier.allowed = none) : verifier.Admits token :=
  fun _ listed => nomatch unlisted.symm.trans listed

/-- The expiry time of an expired token is shown, so if it cannot be written there is no verdict. -/
theorem result_verify_of_not_showable (admitted : verifier.Admits token)
    (parsed : (verifier.registry.parse verifier.resolver credential issuer).result = .ok token)
    (told : nowMillis clock = .ok now) (late : ¬ verifier.Tolerates token now)
    (unshowable : ¬ token.Showable) :
    (verifier.verify credential issuer clock none).result = .error (.limit .writing) := by
  have instant : instantOr clock none = .ok now := told
  have decided : (verifier.verdictOn clock none (.ok token)).result = .error (.limit .writing) := by
    rw [verdictOn, if_pos (allows_iff.mpr admitted), instant]
    dsimp only
    rw [judge, if_pos (isExpired_iff.mpr late), Token.write?_expiresAt_of_not_showable unshowable]
    rfl
  rw [← decided, ← parsed]
  rfl

end Verifier

/-- A sealed token begins with no hyphen, so on a line it is an operand. -/
theorem Token.head?_encode_ne {token : Token} {kind : Kind} {resolver : Resolver} 
    {random : ByteSource} {raw : Text} (builtin : token.variant = .builtin kind)
    (encoded : (token.encode resolver random).result = .ok raw) : raw.head? ≠ some (.char '-') := by
  obtain ⟨plain, key, _, _, rfl⟩ := encode_eq_ok_iff.mp encoded
  rw [builtin]
  cases kind <;> simp [Variant.mark, Kind.mark]

/-- How the inspection of a token ends that its issuer's key opens: good up to its expiry time and
the tolerance, expired from then on, and broken off if the expiry time is too long to be written. -/
structure Token.Inspected (token : Token) (now : Int) (skew : Nat) (json : Bool)
    (transcript : Cli.Transcript) : Prop where
  good (showable : token.Showable)
      (early : now < token.common.issuedAt + token.common.lifespan + skew) :
    transcript.result = .ok 0 ∧
      Cli.InspectArguments.reportHead json true "ok" <+: transcript.output
  late (showable : token.Showable)
      (past : token.common.issuedAt + token.common.lifespan + skew ≤ now) :
    transcript.result = .ok 1 ∧
      Cli.InspectArguments.reportHead json false "expired" <+: transcript.output
  long (unshowable : ¬ token.Showable) : ∃ crash, transcript.result = .error crash

namespace Cli

namespace InspectArguments

variable {arguments : InspectArguments} {surroundings : Surroundings} {secret : Secret}
  {skew : Nat} {now : Int} {token : Token}

theorem conclude_of_report {json : Bool} {verdict : Verdict} {output : Text} (log : Text)
    (reported : report json verdict = (output, none)) :
    conclude json log (.ok verdict) =
      ⟨output, log, .ok (if verdict.valid then 0 else 1)⟩ := by
  simp only [conclude, reported]

theorem conclude_of_broken {json : Bool} {verdict : Verdict} {output : Text}
    {exceeded : Decimal.LimitExceeded} (log : Text)
    (reported : report json verdict = (output, some exceeded)) :
    conclude json log (.ok verdict) = ⟨output, log, .error (.limit exceeded)⟩ := by
  simp only [conclude, reported]

/-- A run that inspects reports what its verifier says, and records it. -/
theorem run_of_skew (session : Session)
    (found : findSecret arguments.options.secret surroundings.secret = .ok secret)
    (tolerance : arguments.options.skew.getD (some surroundings.settings.clockSkew) =
      some (skew : Int)) :
    let verified := (⟨secret.resolver, .standard, skew, none⟩ : Verifier).verify
      (some arguments.token) (some arguments.issuer) surroundings.clock none
    arguments.run surroundings session =
      (conclude arguments.options.json (logged session.verbose verified.events) verified.result,
        { session with metrics := Verifier.record session.metrics 0 0 verified.result }) := by
  have made : Verifier.make secret.resolver .standard (skew : Int) none =
      .ok ⟨secret.resolver, .standard, skew, none⟩ := by
    rw [Verifier.make, if_neg (Int.not_lt.mpr (Int.natCast_nonneg skew)), Int.toNat_natCast]
  simp only [run, found, tolerance, made, Verifier.verifyMetered]

/-- A run that inspects a token it can read ends as it should. -/
theorem inspected_of_run (arguments : InspectArguments) (session : Session)
    (found : findSecret arguments.options.secret surroundings.secret = .ok secret)
    (tolerance : arguments.options.skew.getD (some surroundings.settings.clockSkew) =
      some (skew : Int))
    (told : nowMillis surroundings.clock = .ok now)
    (parsed : (Registry.standard.parse secret.resolver (some arguments.token)
      (some arguments.issuer)).result = .ok token)
    (writable : token.Writable) :
    token.Inspected now skew arguments.options.json
      (arguments.run surroundings session).1 := by
  let verifier : Verifier := ⟨secret.resolver, .standard, skew, none⟩
  have admitted : verifier.Admits token := Verifier.admits_of_allowed_none rfl
  -- The verdict depends on the time alone, and whether it can be reported on the expiry time.
  have accepted (early : verifier.Tolerates token now) :
      (verifier.verify (some arguments.token) (some arguments.issuer) surroundings.clock
        none).result = .ok (.accepted token) :=
    Verifier.verify_eq_ok_iff.mpr (.accepted parsed admitted told early)
  rw [run_of_skew session found tolerance]
  constructor
  · intro showable early
    obtain ⟨output, reported, head⟩ :=
      report_of_showable arguments.options.json (.inl rfl) writable showable
    rw [accepted early, conclude_of_report _ reported]
    exact ⟨rfl, head⟩
  · intro showable past
    obtain ⟨output, reported, head⟩ :=
      report_of_showable arguments.options.json (.inr rfl) writable showable
    have expired : (verifier.verify (some arguments.token) (some arguments.issuer)
        surroundings.clock none).result = .ok (.expired token) :=
      Verifier.verify_eq_ok_iff.mpr (.expired parsed admitted told (Int.not_lt.mpr past)
        showable.write?_expiresAt)
    rw [expired, conclude_of_report _ reported]
    exact ⟨rfl, head⟩
  · intro unshowable
    have held : (Verdict.accepted token).token? = some token := rfl
    by_cases early : verifier.Tolerates token now
    · obtain ⟨output, exceeded, reported⟩ :=
        report_of_not_showable arguments.options.json held writable unshowable
      rw [accepted early, conclude_of_broken _ reported]
      exact ⟨_, rfl⟩
    · rw [Verifier.result_verify_of_not_showable admitted parsed told early unshowable]
      exact ⟨_, rfl⟩

end InspectArguments

theorem run_of_inspect {surroundings : Surroundings} {line : List Text} {session : Session}
    {verbose : Bool} {arguments : InspectArguments}
    (read : Invocation.read line = .ok ⟨verbose, some (.inspect arguments)⟩) :
    run surroundings line session =
      arguments.run surroundings
        { session with verbose := session.verbose.or (some verbose) } := by
  rw [run, read]
  rfl

/-- A token that was issued is inspected as its times say. -/
theorem IssueArguments.Grants.inspected {arguments : IssueArguments}
    {issuing inspecting : Surroundings} {now moment : Int} {secret : Secret} {token : Token}
    {random : ByteSource} {raw : Text} {skew : Nat}
    (granted : arguments.Grants issuing now secret token)
    (encoded : (token.encode secret.resolver random).result = .ok raw) (options : InspectOptions)
    (later : Session)
    (found : findSecret options.secret inspecting.secret = .ok secret)
    (tolerance : options.skew.getD (some inspecting.settings.clockSkew) = some (skew : Int))
    (told : nowMillis inspecting.clock = .ok moment) :
    token.Inspected moment skew options.json
      (InspectArguments.run ⟨raw, arguments.issuer, options⟩ inspecting later).1 := by
  have parsed := (Token.parse_encode granted.asks.variant encoded).2
  rw [granted.asks.issuer] at parsed
  exact InspectArguments.inspected_of_run ⟨raw, arguments.issuer, options⟩ later found
    tolerance told parsed granted.writable

/-- What a run that issues prints can be inspected. With the same secret, for the same issuer and
under any tolerance, a run that inspects it says that it is good until the expiry time and the
tolerance are over, and then that it is expired; only an expiry time that is too long to be written
breaks it off. -/
theorem inspect_issued {issuing : Surroundings} {line : List Text} {session : Session}
    {verbose : Bool} {arguments : IssueArguments}
    (read : Invocation.read line = .ok ⟨verbose, some (.issue arguments)⟩)
    (ended : (run issuing line session).1.result = .ok 0) :
    ∃ secret token raw now,
      findSecret arguments.options.secret issuing.secret = .ok secret ∧
      (run issuing line session).1.output = raw ++ [.char '\n'] ∧
      arguments.Timed issuing.clock now ∧ arguments.Asks issuing.settings now token ∧
      (arguments.issuer ≠ separator → Invocation.read (inspectLine raw arguments.issuer) =
        .ok ⟨false, some (.inspect ⟨raw, arguments.issuer, {}⟩)⟩) ∧
      ∀ (inspecting : Surroundings) (line : List Text) (later : Session) (verbose : Bool)
        (options : InspectOptions) (moment : Int) (skew : Nat),
        Invocation.read line = .ok ⟨verbose, some (.inspect ⟨raw, arguments.issuer, options⟩)⟩ →
        findSecret options.secret inspecting.secret = .ok secret →
        options.skew.getD (some inspecting.settings.clockSkew) = some (skew : Int) →
        nowMillis inspecting.clock = .ok moment →
        token.Inspected moment skew options.json (run inspecting line later).1 := by
  rw [run_of_issue read] at ended ⊢
  obtain ⟨now, secret, token, raw, timed, granted, encoded, printed⟩ :=
    IssueArguments.issued_of_run ended
  refine ⟨secret, token, raw, now, granted.secret, printed, timed, granted.asks,
    read_inspectLine (Token.head?_encode_ne granted.asks.variant encoded), ?_⟩
  intro inspecting other later verbose options moment skew understood found tolerance told
  rw [run_of_inspect understood]
  exact granted.inspected encoded options _ found tolerance told

end Cli

namespace Sample

open Cli

/-- The surroundings when the sample's token has just expired. -/
def laterSurroundings : Surroundings := { surroundings with clock := 0.18 }

theorem nowMillis_laterSurroundings : nowMillis laterSurroundings.clock = .ok 180 := by
  decide

/-- The last moment that can be written. -/
def lastMoment : Nat := Decimal.tenTo Decimal.digitLimit - 1

theorem lastMoment_lt : lastMoment < Decimal.tenTo Decimal.digitLimit :=
  Nat.sub_one_lt (Nat.ne_of_gt (Decimal.tenTo_pos _))

/-- A token that is issued at the last moment and expires after it. -/
def lasting : Token where
  variant := .builtin .unitUser
  common := ⟨lastMoment, 1, none, none, issuer⟩
  contents := .empty
  faultless := formFault?_eq_none_iff.mpr {
    carried := fun part held => absurd held (by cases part <;> decide)
    issuedAt_nonneg := Int.natCast_nonneg _
    lifespan_pos := by decide
    issuer_nonempty := by decide
    scope_items := nofun
    target_valid := nofun
    originalIssuer_valid := nofun }
  common_normal := rfl
  contents_normal := Contents.normal_empty

/-- The line that asks for it, with the moment in all its digits. -/
def lastingLine : List Text :=
  issueLine .unitUser issuer (Decimal.ofNat lastMoment) [.char '1']

def lastingArguments : IssueArguments :=
  ⟨.unitUser, issuer, { issuedAt := some (some lastMoment), lifespan := some (some 1) }⟩

theorem read_lastingLine :
    Invocation.read lastingLine = .ok ⟨false, some (.issue lastingArguments)⟩ := by
  have moment : Decimal.Legible (Decimal.ofNat lastMoment) := Decimal.legible_ofNat lastMoment_lt
  have one : Decimal.Legible [.char '1'] := ⟨by decide, List.all_eq_true.mp (by decide), by decide⟩
  have read := read_issueLine .unitUser (by decide : issuer ≠ separator) moment one
  rw [Decimal.value_ofNat] at read
  exact read

theorem writable_lasting : lasting.Writable where
  issuedAt := lastMoment_lt
  lifespan := Decimal.lt_tenTo_digitLimit (by decide)
  subject := by decide
  schema := by decide
  issuer := by decide
  roles := nofun

theorem encodable_lasting : lasting.Encodable where
  subject := by decide
  schema := by decide
  issuer := by decide
  parts := nofun

theorem not_showable_lasting : ¬ lasting.Showable := by
  have := Decimal.tenTo_pos Decimal.digitLimit
  have expiresAt : lasting.expiresAt = (Decimal.tenTo Decimal.digitLimit : Int) := by
    show ((Decimal.tenTo Decimal.digitLimit - 1 : Nat) : Int) + 1 = _
    omega
  rw [Token.Showable, expiresAt, Int.natAbs_natCast]
  exact Nat.lt_irrefl _

theorem grants_lasting (now : Int) : lastingArguments.Grants surroundings now secret lasting where
  secret := findSecret_surroundings
  numbered := ⟨nofun, nofun⟩
  asks := ⟨rfl, rfl, rfl, rfl, rfl, rfl, rfl, .nil, rfl, rfl⟩
  writable := writable_lasting
  encodable := encodable_lasting

end Sample

namespace Cli

theorem inspect_issued_change :
    ∃ raw,
      (run Sample.surroundings Sample.changeLine Sample.session).1.output = raw ++ [.char '\n'] ∧
      (run Sample.surroundings (inspectLine raw Sample.issuer) Sample.session).1.result = .ok 0 ∧
      (run Sample.laterSurroundings (inspectLine raw Sample.issuer) Sample.session).1.result =
        .ok 1 := by
  have ended : (run Sample.surroundings Sample.changeLine Sample.session).1.result = .ok 0 := by
    rw [run_of_issue Sample.read_changeLine]
    exact IssueArguments.result_of_grants _ (fun _ => Sample.nowMillis_surroundings)
      Sample.grants_change
  obtain ⟨secret, token, raw, now, found, printed, _, asks, readable, inspected⟩ :=
    inspect_issued Sample.read_changeLine ended
  have issuedAt : token.common.issuedAt = 120 := asks.issuedAt
  have lifespan : token.common.lifespan = 60 := asks.lifespan
  have showable : token.Showable := by
    rw [Token.Showable, Token.expiresAt, issuedAt, lifespan]
    exact Decimal.lt_tenTo_digitLimit (by decide)
  have understood := readable (by decide)
  have early := inspected Sample.surroundings _ Sample.session false {} 0 0 understood found rfl
    Sample.nowMillis_surroundings
  have late := inspected Sample.laterSurroundings _ Sample.session false {} 180 0 understood found
    rfl Sample.nowMillis_laterSurroundings
  refine ⟨raw, printed, (early.good showable ?_).1, (late.late showable ?_).1⟩
  · rw [issuedAt, lifespan]
    decide
  · rw [issuedAt, lifespan]
    decide

/-- Not every token that is issued can be inspected: the expiry time of this one is longer than the
two times it is the sum of. -/
theorem inspect_issued_lasting :
    (run Sample.surroundings Sample.lastingLine Sample.session).1.result = .ok 0 ∧
      ∃ raw,
        (run Sample.surroundings Sample.lastingLine Sample.session).1.output =
          raw ++ [.char '\n'] ∧
        ∃ crash, (run Sample.surroundings (inspectLine raw Sample.issuer) Sample.session).1.result =
          .error crash := by
  rw [run_of_issue Sample.read_lastingLine]
  generalize ({ Sample.session with verbose := Sample.session.verbose.or (some false) } : Session) =
    session
  have ended : (Sample.lastingArguments.run Sample.surroundings session).1.result = .ok 0 :=
    IssueArguments.result_of_grants session (fun _ => Sample.nowMillis_surroundings)
      (Sample.grants_lasting 0)
  obtain ⟨now, secret, token, raw, timed, granted, encoded, printed⟩ :=
    IssueArguments.issued_of_run ended
  have same : token = Sample.lasting := granted.asks.unique timed (Sample.grants_lasting now).asks
  have plain : raw.head? ≠ some (.char '-') := Token.head?_encode_ne granted.asks.variant encoded
  have inspected (later : Session) : token.Inspected 0 0 false
      (InspectArguments.run ⟨raw, Sample.issuer, {}⟩ Sample.surroundings later).1 :=
    granted.inspected encoded {} later granted.secret rfl Sample.nowMillis_surroundings
  refine ⟨ended, raw, printed, ?_⟩
  rw [run_of_inspect (read_inspectLine plain (by decide))]
  refine (inspected _).long ?_
  rw [same]
  exact Sample.not_showable_lasting

end Cli

end SealedToken
