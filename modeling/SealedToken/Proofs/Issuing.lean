import SealedToken.Cli.Run
import SealedToken.Proofs.Counting
import SealedToken.Proofs.Resealing

/-!
Issuing from the command line. A run that ends well prints the token that was asked for and counts
it; any other prints nothing and counts nothing. A part that the kind does not carry is refused, and
never dropped.
-/

set_option autoImplicit false

namespace SealedToken

/-! ## Tokens from requests -/

/-- A fault in the fields of a token, and not in the way they are handed over. -/
def FormFault.OfFields : FormFault → Prop
  | .clock _ | .unexpected _ _ | .notARole _ => False
  | _ => True

theorem Common.ofFields_of_fault? {common : Common} {fault : FormFault}
    (found : common.fault? = some fault) : fault.OfFields := by
  unfold fault? at found
  split at found
  · obtain rfl := Option.some.inj found
    trivial
  split at found
  · obtain rfl := Option.some.inj found
    trivial
  split at found
  · obtain rfl := Option.some.inj found
    trivial
  · cases found

namespace Contents

theorem ofFields_of_scopeFault? {scope : List Text} {fault : FormFault}
    (found : scopeFault? scope = some fault) : fault.OfFields := by
  obtain ⟨item, _, rfl⟩ := Option.map_eq_some_iff.mp found
  trivial

theorem ofFields_of_addressFault? {address : Option Text} {fault : FormFault}
    (found : addressFault? address = some fault) : fault.OfFields := by
  unfold addressFault? at found
  split at found
  · cases found
  split at found
  · cases found
  · obtain rfl := Option.some.inj found
    trivial

end Contents

theorem ofFields_of_formFault? {variant : Variant} {common : Common} {contents : Contents}
    {fault : FormFault} (straight : contents.strayFault? variant = none)
    (found : formFault? variant common contents = some fault) : fault.OfFields := by
  rw [formFault?, straight, Option.none_or, Option.or_eq_some_iff] at found
  rcases found with found | ⟨_, found⟩
  · exact Common.ofFields_of_fault? found
  rcases Option.or_eq_some_iff.mp found with found | ⟨_, found⟩
  · exact Contents.ofFields_of_scopeFault? found
  rcases Option.or_eq_some_iff.mp found with found | ⟨_, found⟩
  · exact Contents.ofFields_of_addressFault? found
  · exact Contents.ofFields_of_addressFault? found

namespace Request

variable {request : Request}

/-- A request that mentions only what its variant carries, and lists roles alone. -/
structure Straight (request : Request) : Prop where
  carried : ∀ part, request.mentions part = true → request.variant.carries part = true
  roles : ∀ item ∈ request.roles.getD [], ∃ role, item = .role role

theorem mentions_of_holds {part : Part} (held : request.contents.normal.holds part = true) :
    request.mentions part = true := by
  obtain ⟨_, _, _, _, _, scope, roles, target, originalIssuer⟩ := request
  cases part with
  | scope => cases scope <;> simp_all [Contents.holds, Contents.normal, contents, mentions]
  | roles => cases roles <;> simp_all [Contents.holds, Contents.normal, contents, mentions]
  | target =>
    cases target <;>
      simp_all [Contents.holds, Contents.normal, contents, mentions, absentIfEmpty]
  | originalIssuer =>
    cases originalIssuer <;>
      simp_all [Contents.holds, Contents.normal, contents, mentions, absentIfEmpty]

theorem Straight.strayFault? (straight : request.Straight) : request.strayFault? = none := by
  simp only [Request.strayFault?, Option.map_eq_none_iff, List.find?_eq_none, Bool.and_eq_true,
    Bool.not_eq_true', not_and, Bool.not_eq_false]
  exact fun part _ => straight.carried part

theorem Straight.contents_strayFault? (straight : request.Straight) :
    request.contents.normal.strayFault? request.variant = none :=
  Contents.strayFault?_eq_none_iff.mpr fun part held =>
    straight.carried part (mentions_of_holds held)

theorem Straight.roles_faultless (straight : request.Straight) :
    (request.roles.getD []).findSome? RoleItem.fault? = none := by
  rw [List.findSome?_eq_none_iff]
  intro item listed
  obtain ⟨role, rfl⟩ := straight.roles item listed
  rfl

/-- Once its times are told, a straight request fails for its fields alone. -/
theorem Straight.ofFields_of_token {settings : Settings} {clock : Float} {fault : FormFault}
    {times : Int × Int} (straight : request.Straight)
    (told : request.times settings clock = .ok times)
    (failed : request.token settings clock = .error fault) : fault.OfFields := by
  obtain ⟨issuedAt, lifespan⟩ := times
  rw [token, told] at failed
  dsimp only at failed
  split at failed
  · next found =>
    obtain rfl := Except.error.inj failed
    rw [fault?, straight.strayFault?, Option.none_or, straight.roles_faultless, Option.or_none,
      Option.or_eq_some_iff] at found
    rcases found with found | ⟨_, found⟩
    · exact Common.ofFields_of_fault? found
    · exact Contents.ofFields_of_scopeFault? found
  · unfold Token.make at failed
    split at failed
    · next found =>
      obtain rfl := Except.error.inj failed
      exact ofFields_of_formFault? straight.contents_strayFault? found
    · cases failed

/-- The token of a straight request has the fields asked for, if any token can. -/
theorem Straight.token_eq_ok_iff {settings : Settings} {clock : Float} {issuedAt lifespan : Int}
    {token : Token} (straight : request.Straight)
    (told : request.times settings clock = .ok (issuedAt, lifespan)) :
    request.token settings clock = .ok token ↔
      token.variant = request.variant ∧
        token.common = (request.common issuedAt lifespan).normal ∧
        token.contents = request.contents.normal := by
  rw [← Token.make_eq_ok_iff, Request.token, told]
  dsimp only
  split
  · next fault found =>
    -- What stands in the way of the request stands in the way of the token.
    rw [fault?, straight.strayFault?, Option.none_or, straight.roles_faultless,
      Option.or_none] at found
    simp only [reduceCtorEq, false_iff]
    intro made
    obtain ⟨variant, common, contents⟩ := Token.make_eq_ok_iff.mp made
    have admitted := token.admitted
    rw [variant, common, contents] at admitted
    have times : (request.common issuedAt lifespan).fault? = none :=
      Common.fault?_eq_none_iff.mpr
        ⟨admitted.issuedAt_nonneg, admitted.lifespan_pos, admitted.issuer_nonempty⟩
    have scope : Contents.scopeFault? request.contents.scope = none :=
      Contents.scopeFault?_eq_none_iff.mpr admitted.scope_items
    rw [times, scope] at found
    cases found
  · rfl

end Request

/-! ## Requests from arguments -/

namespace Cli.IssueArguments

/-- The parts that arguments ask for. -/
def mentions (arguments : IssueArguments) : Part → Bool
  | .scope => !arguments.options.scope.isEmpty
  | .roles => !arguments.options.roles.isEmpty
  | .target => (absentIfEmpty arguments.options.target).isSome
  | .originalIssuer => (absentIfEmpty arguments.options.originalIssuer).isSome

/-- The kind carries all parts that are asked for. -/
def Carried (arguments : IssueArguments) : Prop :=
  ∀ part, arguments.mentions part = true → part ∈ arguments.kind.layout

/-- A role is given by its address. -/
def Addresses (given : Option Text) (role : Role) : Prop :=
  ∃ address, given = some address ∧ Role.ofAddress address = .ok role

/-- The request that arguments make, with these roles. -/
def requestOf (settings : Settings) (arguments : IssueArguments) (roles : List Role) : Request where
  variant := .builtin arguments.kind
  timing := arguments.timing settings
  issuer := arguments.issuer
  subject := arguments.options.subject
  schema := arguments.options.schema
  scope :=
    if arguments.mentions .scope then some (arguments.options.scope.map (·.getD [])) else none
  roles := if arguments.mentions .roles then some (roles.map .role) else none
  target := if arguments.mentions .target then some arguments.options.target else none
  originalIssuer :=
    if arguments.mentions .originalIssuer then some arguments.options.originalIssuer else none

theorem asked_eq_ok_iff {kind : Kind} {part : Part} {Value : Type} {wanted : Bool} {value : Value}
    {found : Option Value} :
    asked kind part wanted value = .ok found ↔
      (wanted = true → part ∈ kind.layout) ∧ found = if wanted then some value else none := by
  unfold asked
  cases wanted with
  | false => simp [eq_comm]
  | true => by_cases carried : part ∈ kind.layout <;> simp [carried, eq_comm]

theorem roleItem_eq_ok_iff {given : Option Text} {item : RoleItem} :
    roleItem given = .ok item ↔ ∃ role, Addresses given role ∧ item = .role role := by
  cases given with
  | none => simp [roleItem, Addresses]
  | some address =>
    cases read : Role.ofAddress address <;> simp [roleItem, Addresses, read, eq_comm]

theorem mapM_roleItem_eq_ok_iff {given : List (Option Text)} {items : List RoleItem} :
    given.mapM roleItem = .ok items ↔
      ∃ roles, List.Forall₂ Addresses given roles ∧ items = roles.map .role := by
  induction given generalizing items with
  | nil => simp [pure, Except.pure, eq_comm]
  | cons first rest ih =>
    rw [List.mapM_cons]
    constructor
    · intro read
      cases head : roleItem first with
      | error refusal => rw [head] at read; cases read
      | ok item =>
        cases tail : rest.mapM roleItem with
        | error refusal => rw [head, tail] at read; cases read
        | ok others =>
          rw [head, tail] at read
          obtain rfl := Except.ok.inj read
          obtain ⟨role, addressed, rfl⟩ := roleItem_eq_ok_iff.mp head
          obtain ⟨roles, listed, rfl⟩ := ih.mp tail
          exact ⟨role :: roles, .cons addressed listed, rfl⟩
    · rintro ⟨_, listed, rfl⟩
      cases listed with
      | cons addressed listed =>
        rw [roleItem_eq_ok_iff.mpr ⟨_, addressed, rfl⟩, ih.mpr ⟨_, listed, rfl⟩]
        rfl

theorem bind_eq_ok_iff {Fault First Next : Type} {first : Except Fault First}
    {next : First → Except Fault Next} {value : Next} :
    (first >>= next) = .ok value ↔ ∃ middle, first = .ok middle ∧ next middle = .ok value := by
  cases first <;> simp [bind, Except.bind]

/-- Arguments make a request if the kind carries what they ask for and each role has a name and an
address. -/
theorem request_eq_ok_iff {settings : Settings} {arguments : IssueArguments} {request : Request} :
    arguments.request settings = .ok request ↔
      arguments.Carried ∧ ∃ roles, List.Forall₂ Addresses arguments.options.roles roles ∧
        request = arguments.requestOf settings roles := by
  have addresses : (if (!arguments.options.roles.isEmpty) = true then some arguments.options.roles
      else none).getD [] = arguments.options.roles := by
    cases arguments.options.roles <;> rfl
  have mapped (items : List RoleItem) : (if (!arguments.options.roles.isEmpty) = true then
      some arguments.options.roles else none).map (fun _ => items) =
        if (!arguments.options.roles.isEmpty) = true then some items else none := by
    split <;> rfl
  simp only [IssueArguments.request, bind_eq_ok_iff, asked_eq_ok_iff, pure, Except.pure,
    Except.ok.injEq]
  constructor
  · rintro ⟨_, ⟨roles, rfl⟩, items, listed, _, ⟨scope, rfl⟩, _, ⟨target, rfl⟩, _,
      ⟨originalIssuer, rfl⟩, rfl⟩
    rw [addresses] at listed
    obtain ⟨known, addressed, rfl⟩ := mapM_roleItem_eq_ok_iff.mp listed
    refine ⟨?_, known, addressed, ?_⟩
    · intro part asked
      cases part with
      | scope => exact scope asked
      | roles => exact roles asked
      | target => exact target asked
      | originalIssuer => exact originalIssuer asked
    · rw [mapped]
      rfl
  · rintro ⟨carried, known, addressed, rfl⟩
    refine ⟨_, ⟨carried .roles, rfl⟩, known.map .role, ?_, _, ⟨carried .scope, rfl⟩, _,
      ⟨carried .target, rfl⟩, _, ⟨carried .originalIssuer, rfl⟩, ?_⟩
    · rw [addresses]
      exact mapM_roleItem_eq_ok_iff.mpr ⟨known, addressed, rfl⟩
    · rw [mapped]
      rfl

variable {settings : Settings} {arguments : IssueArguments} {clock : Float} {now : Int}
  {roles : List Role}

theorem straight_requestOf (carried : arguments.Carried) :
    (arguments.requestOf settings roles).Straight where
  carried part mentioned := by
    have wanted : arguments.mentions part = true := by
      cases part <;> simpa [requestOf, Request.mentions] using mentioned
    exact List.contains_iff_mem.mpr (carried part wanted)
  roles item listed := by
    have given : item ∈ (if arguments.mentions .roles then some (roles.map RoleItem.role)
        else none).getD [] := listed
    split at given
    · obtain ⟨role, _, rfl⟩ := List.mem_map.mp given
      exact ⟨role, rfl⟩
    · cases given

/-- It is this time now, as far as that matters: a time that is given needs no clock. -/
def Timed (arguments : IssueArguments) (clock : Float) (now : Int) : Prop :=
  arguments.options.issuedAt.join = none → nowMillis clock = .ok now

/-- The issue time that is asked for, or else now. -/
def issueTime (arguments : IssueArguments) (now : Int) : Int :=
  arguments.options.issuedAt.join.getD now

/-- The lifespan that is asked for, or else that of the kind. -/
def lifespan (arguments : IssueArguments) (settings : Settings) : Int :=
  arguments.options.lifespan.join.getD (arguments.kind.lifespan settings)

theorem times_requestOf (timed : arguments.Timed clock now) :
    (arguments.requestOf settings roles).times settings clock =
      .ok (arguments.issueTime now, arguments.lifespan settings) := by
  unfold Request.times requestOf timing issueTime lifespan
  cases given : arguments.options.issuedAt.join with
  | none =>
    dsimp only
    rw [timed given]
    rfl
  | some issuedAt => rfl

/-- The token is of the kind asked for and holds what is asked for, and nothing else. -/
structure Asks (arguments : IssueArguments) (settings : Settings) (now : Int) (token : Token) :
    Prop where
  variant : token.variant = .builtin arguments.kind
  issuer : token.common.issuer = arguments.issuer
  subject : token.common.subject = absentIfEmpty arguments.options.subject
  schema : token.common.schema = absentIfEmpty arguments.options.schema
  issuedAt : token.common.issuedAt = arguments.issueTime now
  lifespan : token.common.lifespan = arguments.lifespan settings
  scope : arguments.options.scope = token.contents.scope.map some
  roles : List.Forall₂ Addresses arguments.options.roles token.contents.roles
  target : token.contents.target = absentIfEmpty arguments.options.target
  originalIssuer : token.contents.originalIssuer = absentIfEmpty arguments.options.originalIssuer

theorem Asks.carried {token : Token} (asks : arguments.Asks settings now token) :
    arguments.Carried := by
  intro part mentioned
  have held : token.contents.holds part = true := by
    cases part with
    | scope =>
      rw [mentions, asks.scope] at mentioned
      simpa [Contents.holds] using mentioned
    | roles =>
      have listed := asks.roles
      rw [mentions, Bool.not_eq_true', List.isEmpty_eq_false_iff] at mentioned
      simp only [Contents.holds, ne_eq, decide_not, Bool.not_eq_true', decide_eq_false_iff_not]
      intro none
      rw [none, List.forall₂_nil_right_iff] at listed
      exact mentioned listed
    | target =>
      rw [mentions, ← asks.target] at mentioned
      exact mentioned
    | originalIssuer =>
      rw [mentions, ← asks.originalIssuer] at mentioned
      exact mentioned
  have carried := token.admitted.carried part held
  rw [asks.variant] at carried
  exact List.contains_iff_mem.mp carried

theorem absentIfEmpty_join {wanted : Bool} {text : Option Text}
    (same : wanted = (absentIfEmpty text).isSome) :
    absentIfEmpty (if wanted then some text else none).join = absentIfEmpty text := by
  subst same
  split
  · rfl
  · next absent => exact (Option.not_isSome_iff_eq_none.mp absent).symm

theorem contents_requestOf (listed : List.Forall₂ Addresses arguments.options.roles roles) :
    (arguments.requestOf settings roles).contents.normal =
      { scope := arguments.options.scope.map (·.getD [])
        roles := roles
        target := absentIfEmpty arguments.options.target
        originalIssuer := absentIfEmpty arguments.options.originalIssuer } := by
  have scope : (if arguments.mentions .scope then some (arguments.options.scope.map (·.getD []))
      else none).getD [] = arguments.options.scope.map (·.getD []) := by
    unfold mentions
    cases arguments.options.scope <;> rfl
  have known : ((if arguments.mentions .roles then some (roles.map RoleItem.role)
      else none).getD []).filterMap RoleItem.role? = roles := by
    unfold mentions
    revert listed
    generalize arguments.options.roles = given
    rintro (_ | _)
    · rfl
    · simp [RoleItem.role?, Function.comp_def]
  have target : absentIfEmpty (if arguments.mentions .target then some arguments.options.target
      else none).join = absentIfEmpty arguments.options.target := absentIfEmpty_join rfl
  have originalIssuer : absentIfEmpty (if arguments.mentions .originalIssuer then
      some arguments.options.originalIssuer else none).join =
        absentIfEmpty arguments.options.originalIssuer := absentIfEmpty_join rfl
  unfold Request.contents Contents.normal requestOf
  dsimp only
  rw [scope, known, target, originalIssuer]

theorem common_requestOf :
    ((arguments.requestOf settings roles).common (arguments.issueTime now)
        (arguments.lifespan settings)).normal =
      { issuedAt := arguments.issueTime now
        lifespan := arguments.lifespan settings
        subject := absentIfEmpty arguments.options.subject
        schema := absentIfEmpty arguments.options.schema
        issuer := arguments.issuer } := rfl

theorem map_some_getD {given : List (Option Text)} (full : ∀ item ∈ given, item.getD [] ≠ []) :
    (given.map (·.getD [])).map some = given := by
  rw [List.map_map]
  conv => rhs; rw [← List.map_id given]
  refine List.map_congr_left fun item listed => ?_
  cases item with
  | none => exact absurd rfl (full none listed)
  | some text => rfl

/-- What arguments make a token of is what they ask for. -/
theorem asks_iff {token : Token} (timed : arguments.Timed clock now) :
    (∃ request, arguments.request settings = .ok request ∧
      request.token settings clock = .ok token) ↔ arguments.Asks settings now token := by
  constructor
  · rintro ⟨request, accepted, made⟩
    obtain ⟨carried, roles, listed, rfl⟩ := request_eq_ok_iff.mp accepted
    obtain ⟨variant, common, contents⟩ :=
      ((straight_requestOf carried).token_eq_ok_iff (times_requestOf timed)).mp made
    rw [common_requestOf] at common
    rw [contents_requestOf listed] at contents
    -- Scope items are texts with something in them, so each was given as one.
    have full : ∀ item ∈ arguments.options.scope, item.getD [] ≠ [] := by
      intro item given empty
      have inside : [] ∈ token.contents.scope := by
        rw [contents]
        exact List.mem_map.mpr ⟨item, given, empty⟩
      exact absurd (token.admitted.scope_items [] inside) (by decide)
    exact {
      variant
      issuer := by rw [common]
      subject := by rw [common]
      schema := by rw [common]
      issuedAt := by rw [common]
      lifespan := by rw [common]
      scope := by rw [contents, map_some_getD full]
      roles := by rwa [contents]
      target := by rw [contents]
      originalIssuer := by rw [contents] }
  · intro asks
    have carried := asks.carried
    refine ⟨_, request_eq_ok_iff.mpr ⟨carried, _, asks.roles, rfl⟩, ?_⟩
    rw [(straight_requestOf carried).token_eq_ok_iff (times_requestOf timed), common_requestOf,
      contents_requestOf asks.roles, asks.scope, List.map_map]
    obtain ⟨variant, ⟨issuedAt, lifespan, subject, schema, issuer⟩,
      ⟨scope, roles, target, originalIssuer⟩, _, _, _⟩ := token
    obtain ⟨rfl, rfl, rfl, rfl, rfl, rfl, _, _, rfl, rfl⟩ := asks
    exact ⟨rfl, rfl, by simp [Function.comp_def]⟩

end Cli.IssueArguments

/-! ## Tokens that have a payload -/

theorem Contents.exists_field_of_fields {contents : Contents} {layout : List Part}
    {fields : List Text} (written : contents.fields layout = .ok fields) :
    ∀ part ∈ layout, ∃ field, contents.field part = .ok field := by
  induction layout generalizing fields with
  | nil => exact List.forall_mem_nil _
  | cons part layout ih =>
    obtain ⟨field, rest, first, later, _⟩ := fields_cons_eq_ok_iff.mp written
    exact List.forall_mem_cons.mpr ⟨⟨field, first⟩, ih later⟩

/-- A token has a payload exactly if it can be written. -/
theorem Token.writable_iff {token : Token} {kind : Kind} (builtin : token.variant = .builtin kind) :
    token.Writable ↔ ∃ plain, token.payload = .ok plain := by
  refine ⟨Writable.exists_payload, ?_⟩
  rintro ⟨plain, written⟩
  obtain ⟨extension, fields, joined⟩ := payload_eq_ok_iff.mp written
  obtain ⟨front, common, joined⟩ := Wire.payload_eq_ok_iff.mp joined
  obtain ⟨issuedAt, lifespan, disguised, counted, rfl⟩ := Wire.commonFields_eq_ok_iff.mp common
  obtain ⟨shown, moment, rfl⟩ := Payload.disguise_eq_ok_iff.mp disguised
  obtain ⟨free, rfl⟩ := Payload.join_eq_ok_iff.mp joined
  simp only [List.cons_append, List.forall_mem_cons] at free
  obtain ⟨_, _, subject, schema, issuer, _⟩ := free
  refine ⟨(Decimal.write?_eq_ok_iff.mp moment).1, (Decimal.write?_eq_ok_iff.mp counted).1, subject,
    schema, issuer, ?_⟩
  intro role listed
  -- Roles are written wherever they are held, and only valid addresses are written.
  have held : token.contents.holds .roles = true := by
    simp [Contents.holds, List.ne_nil_of_mem listed]
  have carried := token.admitted.carried .roles held
  rw [builtin, Variant.carries, List.contains_iff_mem] at carried
  rw [builtin] at fields
  obtain ⟨field, encoded⟩ := Contents.exists_field_of_fields fields .roles carried
  exact (Role.encode_eq_ok_iff.mp encoded).1 role listed

/-! ## How a run ends -/

namespace Request

variable {request : Request} {settings : Settings} {clock : Float}

theorem result_issue_of_error {fault : FormFault}
    (failed : request.token settings clock = .error fault) (resolver : Resolver)
    (random : ByteSource) :
    (request.issue settings clock resolver random).result = .error (.form fault) := by
  rw [issue, failed]
  rfl

theorem result_issue_of_ok {token : Token} (made : request.token settings clock = .ok token)
    (resolver : Resolver) (random : ByteSource) :
    (request.issue settings clock resolver random).result =
      (token.encode resolver random).result.mapError .sealing := by
  rw [issue, made]
  rfl

end Request

namespace Cli.IssueArguments

variable {arguments : IssueArguments} {surroundings : Surroundings} {session : Session} {now : Int}

/-- Neither of the two numbers is given as nothing. -/
def Numbered (arguments : IssueArguments) : Prop :=
  arguments.options.issuedAt ≠ some none ∧ arguments.options.lifespan ≠ some none

/-- A number that is given as nothing gets as far as a comparison. -/
def Stumbles (arguments : IssueArguments) (now : Int) : Prop :=
  arguments.options.issuedAt = some none ∨
    (arguments.options.lifespan = some none ∧ 0 ≤ arguments.issueTime now)

/-- The run has a secret, and is asked for a token that can be written, with a UTF-8 form. -/
structure Grants (arguments : IssueArguments) (surroundings : Surroundings) (now : Int)
    (secret : Secret) (token : Token) : Prop where
  secret : findSecret arguments.options.secret surroundings.secret = .ok secret
  numbered : arguments.Numbered
  asks : arguments.Asks surroundings.settings now token
  writable : token.Writable
  encodable : token.Encodable

/-- The run has a secret and a request, but not both its numbers. -/
structure Crashes (arguments : IssueArguments) (surroundings : Surroundings) (now : Int) :
    Prop where
  secret : ∃ secret, findSecret arguments.options.secret surroundings.secret = .ok secret
  request : ∃ request, arguments.request surroundings.settings = .ok request
  stumbles : arguments.Stumbles now

/-- The request of arguments that ask for a token makes that token. -/
theorem Asks.token_of_request {settings : Settings} {clock : Float} {token : Token}
    {request : Request} (asks : arguments.Asks settings now token)
    (timed : arguments.Timed clock now) (accepted : arguments.request settings = .ok request) :
    request.token settings clock = .ok token := by
  obtain ⟨other, same, made⟩ := (asks_iff timed).mpr asks
  rw [accepted] at same
  obtain rfl := Except.ok.inj same
  exact made

/-- Arguments ask for one token at most. -/
theorem Asks.unique {settings : Settings} {clock : Float} {first second : Token}
    (asks : arguments.Asks settings now first) (timed : arguments.Timed clock now)
    (also : arguments.Asks settings now second) : first = second := by
  obtain ⟨request, accepted, made⟩ := (asks_iff timed).mpr asks
  exact Except.ok.inj (made.symm.trans (also.token_of_request timed accepted))

theorem Stumbles.not_numbered (stumbles : arguments.Stumbles now) : ¬ arguments.Numbered := by
  rintro ⟨issuedAt, lifespan⟩
  rcases stumbles with missing | ⟨missing, _⟩
  · exact issuedAt missing
  · exact lifespan missing

/-- The three ways in which a run ends. -/
inductive Ending (arguments : IssueArguments) (surroundings : Surroundings) (now : Int)
    (session : Session) : Transcript × Session → Prop where
  | issued {secret : Secret} {token : Token} {raw : Text} {random : ByteSource}
      (granted : arguments.Grants surroundings now secret token)
      (encoded : (token.encode secret.resolver session.random).result = .ok raw) :
      Ending arguments surroundings now session
        (.printed (raw ++ [.char '\n']),
          ⟨random, session.metrics.recordIssued arguments.kind.mark, session.verbose⟩)
  | refused {reason : Text} {random : ByteSource}
      (denied : ∀ secret token, ¬ arguments.Grants surroundings now secret token)
      (steady : ¬ arguments.Crashes surroundings now) :
      Ending arguments surroundings now session
        (.refused reason, ⟨random, session.metrics, session.verbose⟩)
  | crashed {sign : Text} (crashes : arguments.Crashes surroundings now) :
      Ending arguments surroundings now session (.crashed (.comparison sign), session)

theorem unnumbered_eq_none (numbered : arguments.Numbered) (settings : Settings) (clock : Float)
    (request : Request) : arguments.unnumbered settings clock request = none := by
  rw [unnumbered, if_neg numbered.1, if_neg numbered.2]

theorem unnumbered_of_stumbles {clock : Float} (timed : arguments.Timed clock now)
    (stumbles : arguments.Stumbles now) (settings : Settings) (roles : List Role) :
    ∃ sign, arguments.unnumbered settings clock (arguments.requestOf settings roles) =
      some (.crashed (.comparison sign)) := by
  unfold unnumbered
  by_cases first : arguments.options.issuedAt = some none
  · exact ⟨_, if_pos first⟩
  · obtain ⟨second, later⟩ := stumbles.resolve_left first
    rw [if_neg first, if_pos second, times_requestOf timed]
    dsimp only
    rw [if_neg (Int.not_lt.mpr later)]
    exact ⟨_, rfl⟩

theorem unnumbered_of_not_stumbles {clock : Float} (timed : arguments.Timed clock now)
    (steady : ¬ arguments.Stumbles now) (unnumbered : ¬ arguments.Numbered) (settings : Settings)
    (roles : List Role) :
    ∃ reason, arguments.unnumbered settings clock (arguments.requestOf settings roles) =
      some (.refused reason) := by
  obtain ⟨first, early⟩ := not_or.mp steady
  have second : arguments.options.lifespan = some none :=
    Classical.not_not.mp fun given => unnumbered ⟨first, given⟩
  have before : arguments.issueTime now < 0 := by
    rw [not_and] at early
    exact Int.not_le.mp (early second)
  rw [IssueArguments.unnumbered, if_neg first, if_pos second, times_requestOf timed]
  dsimp only
  rw [if_pos before]
  exact ⟨_, rfl⟩

theorem failed_form (arguments : IssueArguments) {fault : FormFault} (orderly : fault.OfFields) :
    ∃ reason, arguments.failed (.form fault) = .refused reason := by
  cases fault with
  | clock | unexpected | notARole => exact orderly.elim
  | negativeIssuedAt | lifespanNotPositive | issuerRequired | invalidScope | reference =>
    exact ⟨_, rfl⟩

theorem failed_sealing (arguments : IssueArguments) (fault : SealFault) :
    ∃ reason, arguments.failed (.sealing fault) = .refused reason := by
  cases fault with
  | key fault => cases fault <;> exact ⟨_, rfl⟩
  | reference | limit | delimiter | unencodable => exact ⟨_, rfl⟩

/-- With both numbers given, a run ends as issuing does. -/
theorem run_of_numbered {secret : Secret} {request : Request}
    (found : findSecret arguments.options.secret surroundings.secret = .ok secret)
    (accepted : arguments.request surroundings.settings = .ok request)
    (numbered : arguments.Numbered) :
    let issued :=
      request.issue surroundings.settings surroundings.clock secret.resolver session.random
    arguments.run surroundings session =
      match issued.result with
      | .error fault =>
        (arguments.failed fault, ⟨issued.left, session.metrics, session.verbose⟩)
      | .ok raw =>
        (.printed (raw ++ [.char '\n']),
          ⟨issued.left, session.metrics.recordIssued request.variant.mark, session.verbose⟩) := by
  cases ended : (request.issue surroundings.settings surroundings.clock secret.resolver
      session.random).result with
  | error fault => simp only [run, found, accepted, unnumbered_eq_none numbered, ended]
  | ok raw =>
    simp only [run, found, accepted, unnumbered_eq_none numbered, ended]
    rfl

theorem ending_of_numbered {secret : Secret} {request : Request}
    (timed : arguments.Timed surroundings.clock now)
    (found : findSecret arguments.options.secret surroundings.secret = .ok secret)
    (accepted : arguments.request surroundings.settings = .ok request)
    (numbered : arguments.Numbered) :
    arguments.Ending surroundings now session (arguments.run surroundings session) := by
  have steady : ¬ arguments.Crashes surroundings now := fun crashes =>
    crashes.stumbles.not_numbered numbered
  obtain ⟨carried, roles, _, rfl⟩ := request_eq_ok_iff.mp accepted
  rw [run_of_numbered found accepted numbered]
  cases made : (arguments.requestOf surroundings.settings roles).token surroundings.settings
      surroundings.clock with
  | error fault =>
    obtain ⟨reason, ending⟩ := arguments.failed_form
      ((straight_requestOf carried).ofFields_of_token (times_requestOf timed) made)
    simp only [Request.result_issue_of_error made, ending]
    refine .refused (fun secret token granted => ?_) steady
    exact nomatch made.symm.trans (granted.asks.token_of_request timed accepted)
  | ok token =>
    have asks := (asks_iff timed).mp ⟨_, accepted, made⟩
    cases encoded : (token.encode secret.resolver session.random).result with
    | error fault =>
      obtain ⟨reason, ending⟩ := arguments.failed_sealing fault
      simp only [Request.result_issue_of_ok made, encoded, mapError_error, ending]
      refine .refused (fun other same granted => ?_) steady
      -- What is asked for is this very token, and one that can be written is sealed.
      have made' := granted.asks.token_of_request timed accepted
      obtain rfl := Except.ok.inj (made.symm.trans made')
      have answered := secret.resolver_of_isEncodable token.admitted.issuer_nonempty
        granted.encodable.issuer
      obtain ⟨text, sealed, _⟩ :=
        granted.writable.exists_encoded granted.encodable asks.variant answered session.random
      exact nomatch encoded.symm.trans sealed
    | ok raw =>
      simp only [Request.result_issue_of_ok made, encoded, mapError_ok]
      obtain ⟨plain, _, written, sealable, _⟩ := Token.encode_eq_ok_iff.mp encoded
      have writable := (Token.writable_iff asks.variant).mpr ⟨plain, written⟩
      have encodable := (Token.payload_isEncodable_iff written).mp sealable.payload_encodable
      exact .issued ⟨found, numbered, asks, writable, encodable⟩ encoded

/-- If its time is told, a run issues what is asked for, is refused, or crashes on a comparison. -/
theorem run_ending (timed : arguments.Timed surroundings.clock now) :
    arguments.Ending surroundings now session (arguments.run surroundings session) := by
  cases found : findSecret arguments.options.secret surroundings.secret with
  | error reason =>
    simp only [run, found]
    refine .refused (fun secret token granted => ?_) fun crashes => ?_
    · exact nomatch found.symm.trans granted.secret
    · obtain ⟨secret, known⟩ := crashes.secret
      exact nomatch found.symm.trans known
  | ok secret =>
    cases accepted : arguments.request surroundings.settings with
    | error refusal =>
      simp only [run, found, accepted]
      refine .refused (fun secret token granted => ?_) fun crashes => ?_
      · obtain ⟨request, same, _⟩ := (asks_iff timed).mpr granted.asks
        exact nomatch accepted.symm.trans same
      · obtain ⟨request, same⟩ := crashes.request
        exact nomatch accepted.symm.trans same
    | ok request =>
      obtain ⟨_, roles, _, rfl⟩ := request_eq_ok_iff.mp accepted
      by_cases numbered : arguments.Numbered
      · exact ending_of_numbered timed found accepted numbered
      by_cases stumbles : arguments.Stumbles now
      · obtain ⟨sign, ending⟩ := unnumbered_of_stumbles timed stumbles surroundings.settings roles
        simp only [run, found, accepted, ending]
        exact .crashed ⟨⟨secret, found⟩, ⟨_, accepted⟩, stumbles⟩
      · obtain ⟨reason, ending⟩ := unnumbered_of_not_stumbles timed stumbles numbered
          surroundings.settings roles
        simp only [run, found, accepted, ending]
        exact .refused (fun _ _ granted => numbered granted.numbered) fun crashes =>
          stumbles crashes.stumbles

theorem result_of_crashes (session : Session) (timed : arguments.Timed surroundings.clock now)
    (crashes : arguments.Crashes surroundings now) :
    ∃ sign, (arguments.run surroundings session).1.result = .error (.comparison sign) := by
  have ending : arguments.Ending surroundings now session (arguments.run surroundings session) :=
    run_ending timed
  generalize arguments.run surroundings session = ended at ending
  cases ending with
  | issued granted _ => exact absurd granted.numbered crashes.stumbles.not_numbered
  | refused _ steady => exact absurd crashes steady
  | crashed _ => exact ⟨_, rfl⟩

theorem result_of_grants {secret : Secret} {token : Token} (session : Session)
    (timed : arguments.Timed surroundings.clock now)
    (granted : arguments.Grants surroundings now secret token) :
    (arguments.run surroundings session).1.result = .ok 0 := by
  have ending : arguments.Ending surroundings now session (arguments.run surroundings session) :=
    run_ending timed
  generalize arguments.run surroundings session = ended at ending
  cases ending with
  | issued _ _ => rfl
  | refused denied _ => exact absurd granted (denied secret token)
  | crashed crashes => exact absurd granted.numbered crashes.stumbles.not_numbered

theorem not_ok_of_unnumbered {settings : Settings} {clock : Float} {request : Request}
    {ending : Transcript} (stopped : arguments.unnumbered settings clock request = some ending) :
    ending.result ≠ .ok 0 := by
  unfold unnumbered at stopped
  split at stopped
  · obtain rfl := Option.some.inj stopped
    nofun
  split at stopped
  · obtain rfl := Option.some.inj stopped
    split
    · nofun
    · nofun
    · split <;> nofun
  · cases stopped

theorem not_ok_of_failed (arguments : IssueArguments) (fault : IssueFault) :
    (arguments.failed fault).result ≠ .ok 0 := by
  cases fault with
  | form fault =>
    cases fault with
    | clock fault => cases fault <;> nofun
    | unexpected | negativeIssuedAt | lifespanNotPositive | issuerRequired | invalidScope
    | notARole | reference => nofun
  | sealing fault =>
    cases fault with
    | key fault => cases fault <;> nofun
    | reference | limit | delimiter | unencodable => nofun

/-- A run ends well only if the time is told where it is asked for. -/
theorem timed_of_run (ended : (arguments.run surroundings session).1.result = .ok 0) :
    ∃ now, arguments.Timed surroundings.clock now := by
  cases given : arguments.options.issuedAt.join with
  | some issuedAt => exact ⟨0, fun missing => nomatch given.symm.trans missing⟩
  | none =>
    cases told : nowMillis surroundings.clock with
    | ok now => exact ⟨now, fun _ => told⟩
    | error fault =>
      exfalso
      cases found : findSecret arguments.options.secret surroundings.secret with
      | error reason =>
        simp only [run, found] at ended
        cases ended
      | ok secret =>
        cases accepted : arguments.request surroundings.settings with
        | error refusal =>
          simp only [run, found, accepted] at ended
          cases ended
        | ok request =>
          cases stopped : arguments.unnumbered surroundings.settings surroundings.clock request with
          | some ending =>
            simp only [run, found, accepted, stopped] at ended
            exact not_ok_of_unnumbered stopped ended
          | none =>
            obtain ⟨_, roles, _, rfl⟩ := request_eq_ok_iff.mp accepted
            have untold : (arguments.requestOf surroundings.settings roles).token
                surroundings.settings surroundings.clock = .error (.clock fault) := by
              unfold Request.token Request.times requestOf timing
              simp only [given, told]
            simp only [run, found, accepted, stopped, Request.result_issue_of_error untold] at ended
            exact not_ok_of_failed arguments _ ended

/-- A run counts a token of its kind if it ends well, and nothing otherwise. -/
theorem metrics_run (arguments : IssueArguments) (surroundings : Surroundings)
    (session : Session) :
    ((arguments.run surroundings session).1.result = .ok 0 ∧
        (arguments.run surroundings session).2.metrics =
          session.metrics.recordIssued arguments.kind.mark) ∨
      ((arguments.run surroundings session).1.result ≠ .ok 0 ∧
        (arguments.run surroundings session).2.metrics = session.metrics) := by
  unfold run
  cases findSecret arguments.options.secret surroundings.secret with
  | error reason => exact .inr ⟨nofun, rfl⟩
  | ok secret =>
    cases accepted : arguments.request surroundings.settings with
    | error refusal => exact .inr ⟨nofun, rfl⟩
    | ok request =>
      cases stopped : arguments.unnumbered surroundings.settings surroundings.clock request with
      | some ending =>
        dsimp only
        rw [stopped]
        exact .inr ⟨not_ok_of_unnumbered stopped, rfl⟩
      | none =>
        obtain ⟨_, roles, _, rfl⟩ := request_eq_ok_iff.mp accepted
        dsimp only
        rw [stopped]
        dsimp only
        cases ((arguments.requestOf surroundings.settings roles).issue surroundings.settings
            surroundings.clock secret.resolver session.random).result with
        | error fault => exact .inr ⟨not_ok_of_failed arguments fault, rfl⟩
        | ok raw => exact .inl ⟨rfl, rfl⟩

/-- What is behind a run that ended well. -/
theorem issued_of_run (ended : (arguments.run surroundings session).1.result = .ok 0) :
    ∃ now secret token raw, arguments.Timed surroundings.clock now ∧
      arguments.Grants surroundings now secret token ∧
        (token.encode secret.resolver session.random).result = .ok raw ∧
          (arguments.run surroundings session).1.output = raw ++ [.char '\n'] := by
  obtain ⟨now, timed⟩ := timed_of_run ended
  have ending : arguments.Ending surroundings now session (arguments.run surroundings session) :=
    run_ending timed
  generalize arguments.run surroundings session = finished at ending ended
  cases ending with
  | issued granted encoded => exact ⟨now, _, _, _, timed, granted, encoded, rfl⟩
  | refused => cases ended
  | crashed => cases ended

end Cli.IssueArguments

/-! ## What is printed and counted -/

theorem Token.newline_not_mem_encode {token : Token} {kind : Kind} {resolver : Resolver}
    {random : ByteSource} {raw : Text} (builtin : token.variant = .builtin kind)
    (encoded : (token.encode resolver random).result = .ok raw) : .char '\n' ∉ raw := by
  obtain ⟨plain, key, _, _, rfl⟩ := encode_eq_ok_iff.mp encoded
  rw [builtin, List.mem_append, not_or]
  constructor
  · cases kind <;> decide
  · exact fun inside => absurd (Base64.isSymbol_of_mem_encode _ inside) (by decide)

/-- Metrics before and after a token is issued under a mark: two numbers of the summary and one
series are one more, and nothing else changes. -/
structure Metrics.IssuesOnce (before after : Metrics) (mark : Text) : Prop where
  name : after.name = before.name
  numbers (counter : Counter) :
    after.number counter =
      before.number counter + if counter = .issued ∨ counter = .issuedMark mark then 1 else 0
  unnamed (name : Text) (other : ∀ counter : Counter, name ≠ counter.name) :
    after.counters.count name = before.counters.count name
  series (other : Text) :
    after.issued.count other = before.issued.count other + if other = mark then 1 else 0
  outcomes : after.outcomes = before.outcomes
  durations : after.durations = before.durations
  summary (sound : before.Sound) (counter : Counter) :
    after.reading counter =
      before.reading counter + if counter = .issued ∨ counter = .issuedMark mark then 1 else 0

theorem Counter.counts_issued (counter : Counter) (mark : Text) :
    counter.counts (.issued mark) = decide (counter = .issued ∨ counter = .issuedMark mark) := by
  cases counter <;> simp [counts, eq_comm]

theorem Metrics.issuesOnce (metrics : Metrics) (mark : Text) :
    metrics.IssuesOnce (metrics.recordIssued mark) mark := by
  have numbers (counter : Counter) : (metrics.recordIssued mark).number counter =
      metrics.number counter + if counter = .issued ∨ counter = .issuedMark mark then 1 else 0 := by
    have step : (metrics.recordIssued mark).number counter = _ :=
      metrics.number_record counter (.issued mark)
    simpa only [counter.counts_issued mark, decide_eq_true_iff] using step
  exact {
    name := rfl
    numbers
    unnamed _ other := metrics.unnamed_after [.issued mark] other
    series other := Tally.count_bump _ _ _
    outcomes := rfl
    durations := rfl
    summary sound counter := by
      rw [sound.reading_eq, ← numbers]
      exact (sound.record (.issued mark)).reading_eq counter }

namespace Cli

theorem run_of_issue {surroundings : Surroundings} {line : List Text} {session : Session}
    {verbose : Bool} {arguments : IssueArguments}
    (read : Invocation.read line = .ok ⟨verbose, some (.issue arguments)⟩) :
    run surroundings line session =
      arguments.run surroundings
        { session with verbose := session.verbose.or (some verbose) } := by
  rw [run, read]
  rfl

/-- A run that issues ends well exactly if it has a secret and is asked for a token that can be
written, with a UTF-8 form. It then prints that token, which is read back as what was asked for, and
counts it once. Otherwise nothing is printed or counted, and the code is one, as it always is if a
part is asked for that the kind does not carry; only where a number is given as nothing does the run
crash, once it has a secret and a request. -/
theorem run_issue {surroundings : Surroundings} {line : List Text} {verbose : Bool}
    {arguments : IssueArguments} {now : Int} (session : Session)
    (read : Invocation.read line = .ok ⟨verbose, some (.issue arguments)⟩)
    (told : nowMillis surroundings.clock = .ok now) :
    let ended := run surroundings line session
    (ended.1.result = .ok 0 ↔
        ∃ secret token, arguments.Grants surroundings now secret token) ∧
      (∀ secret token, arguments.Grants surroundings now secret token →
        ∃ raw, ended.1.output = raw ++ [.char '\n'] ∧ .char '\n' ∉ raw ∧
          (Registry.standard.parse secret.resolver (some raw) (some arguments.issuer)).result =
            .ok token ∧
          session.metrics.IssuesOnce ended.2.metrics arguments.kind.mark) ∧
      (ended.1.result ≠ .ok 0 → ended.1.output = [] ∧ ended.2.metrics = session.metrics ∧
        (ended.1.result = .ok 1 ∨ arguments.Crashes surroundings now)) ∧
      (arguments.Crashes surroundings now →
        ∃ sign, ended.1.result = .error (.comparison sign)) ∧
      ∀ part, arguments.mentions part = true → part ∉ arguments.kind.layout →
        ended.1.result = .ok 1 := by
  dsimp only
  rw [run_of_issue read]
  -- Whether diagnostics are logged makes no difference to what is issued and counted.
  have kept : ({ session with verbose := session.verbose.or (some verbose) } : Session).metrics =
      session.metrics := rfl
  rw [← kept]
  generalize ({ session with verbose := session.verbose.or (some verbose) } : Session) = session
  have timed : arguments.Timed surroundings.clock now := fun _ => told
  -- A part that is not carried makes no request, and so neither a token nor a crash.
  have barred {part : Part} (mentioned : arguments.mentions part = true)
      (foreign : part ∉ arguments.kind.layout) : ¬ arguments.Carried :=
    fun carried => foreign (carried part mentioned)
  have ending : arguments.Ending surroundings now session (arguments.run surroundings session) :=
    IssueArguments.run_ending timed
  have crash : arguments.Crashes surroundings now →
      ∃ sign, (arguments.run surroundings session).1.result = .error (.comparison sign) :=
    IssueArguments.result_of_crashes session timed
  generalize arguments.run surroundings session = ended at ending crash
  cases ending with
  | issued granted encoded =>
    refine ⟨⟨fun _ => ⟨_, _, granted⟩, fun _ => rfl⟩, ?_, fun failed => absurd rfl failed, crash,
      ?_⟩
    · intro secret token also
      obtain rfl := Except.ok.inj (granted.secret.symm.trans also.secret)
      obtain rfl := granted.asks.unique timed also.asks
      have parsed := (Token.parse_encode also.asks.variant encoded).2
      rw [also.asks.issuer] at parsed
      exact ⟨_, rfl, Token.newline_not_mem_encode also.asks.variant encoded, parsed,
        session.metrics.issuesOnce arguments.kind.mark⟩
    · intro part mentioned foreign
      exact absurd granted.asks.carried (barred mentioned foreign)
  | refused denied steady =>
    have never : ¬ ∃ secret token, arguments.Grants surroundings now secret token :=
      fun ⟨secret, token, granted⟩ => denied secret token granted
    exact ⟨⟨nofun, fun granted => absurd granted never⟩,
      fun secret token granted => absurd granted (denied secret token),
      fun _ => ⟨rfl, rfl, .inl rfl⟩, crash, fun _ _ _ => rfl⟩
  | crashed crashes =>
    have unnumbered := crashes.stumbles.not_numbered
    refine ⟨⟨nofun, fun ⟨_, _, granted⟩ => absurd granted.numbered unnumbered⟩,
      fun _ _ granted => absurd granted.numbered unnumbered,
      fun _ => ⟨rfl, rfl, .inr crashes⟩, crash, ?_⟩
    intro part mentioned foreign
    obtain ⟨request, accepted⟩ := crashes.request
    exact absurd (IssueArguments.request_eq_ok_iff.mp accepted).1 (barred mentioned foreign)

end Cli

namespace Sample

open Cli

/-- The sample's secret in the environment, and the clock at zero. -/
def surroundings : Surroundings := ⟨.standard, some (Jwk.write (List.replicate 16 0)), 0⟩

def session : Session := ⟨.ofBytes [], .new Metrics.defaultName, none⟩

theorem findSecret_surroundings : findSecret none surroundings.secret = .ok secret := by
  decide

theorem nowMillis_surroundings : nowMillis surroundings.clock = .ok 0 := by
  decide +kernel

/-- A line that asks for the token that lets its subject change the password. -/
def changeLine : List Text :=
  ["issue", "password_change", "--issuer", "https://cell.example/", "--subject", "me",
    "--issued-at", "120", "--lifespan", "60"].map Text.ofString

def changeArguments : IssueArguments :=
  ⟨.passwordChange, issuer,
    { subject := some "me", issuedAt := some (some 120), lifespan := some (some 60) }⟩

theorem read_changeLine :
    Invocation.read changeLine = .ok ⟨false, some (.issue changeArguments)⟩ := by
  decide

theorem grants_change : changeArguments.Grants surroundings 0 secret change where
  secret := findSecret_surroundings
  numbered := ⟨by decide, by decide⟩
  asks := ⟨rfl, rfl, rfl, rfl, rfl, rfl, rfl, .nil, rfl, rfl⟩
  writable := (Token.writable_iff rfl).mpr ⟨_, payload_change⟩
  encodable := (Token.payload_isEncodable_iff payload_change).mp (by decide)

/-- The same line with a role, which such a token does not carry. -/
def roleLine : List Text :=
  changeLine ++ ["--role", "https://cell.example/__role/box/doctor"].map Text.ofString

def roleArguments : IssueArguments :=
  { changeArguments with
    options := { changeArguments.options with
      roles := [some "https://cell.example/__role/box/doctor"] } }

theorem read_roleLine :
    Invocation.read roleLine = .ok ⟨false, some (.issue roleArguments)⟩ := by
  decide

/-- A line that gives nothing as the lifespan. -/
def blankLine : List Text :=
  ["issue", "unit_user", "--issuer", "https://cell.example/", "--lifespan=--"].map Text.ofString

def blankArguments : IssueArguments := ⟨.unitUser, issuer, { lifespan := some none }⟩

theorem read_blankLine :
    Invocation.read blankLine = .ok ⟨false, some (.issue blankArguments)⟩ := by
  cbv

theorem crashes_blank : blankArguments.Crashes surroundings 0 where
  secret := ⟨secret, findSecret_surroundings⟩
  request := ⟨_, rfl⟩
  stumbles := .inr ⟨rfl, by decide⟩

end Sample

namespace Cli

theorem run_issue_change :
    let ended := run Sample.surroundings Sample.changeLine Sample.session
    ended.1.result = .ok 0 ∧
      (∃ raw, ended.1.output = raw ++ [.char '\n'] ∧
        (Registry.standard.parse Sample.secret.resolver (some raw) (some Sample.issuer)).result =
          .ok Sample.change) ∧
      (run Sample.surroundings Sample.roleLine Sample.session).1.result = .ok 1 := by
  obtain ⟨well, issued, _⟩ :=
    run_issue Sample.session Sample.read_changeLine Sample.nowMillis_surroundings
  obtain ⟨_, _, _, _, refused⟩ :=
    run_issue Sample.session Sample.read_roleLine Sample.nowMillis_surroundings
  obtain ⟨raw, printed, _, parsed, _⟩ := issued _ _ Sample.grants_change
  exact ⟨well.mpr ⟨_, _, Sample.grants_change⟩, ⟨raw, printed, parsed⟩,
    refused .roles rfl (by decide)⟩

/-- Not every run that issues ends well or is refused. -/
theorem not_forall_run_issue :
    ¬ ∀ (surroundings : Surroundings) (line : List Text) (session : Session) (verbose : Bool)
      (arguments : IssueArguments) (now : Int),
      Invocation.read line = .ok ⟨verbose, some (.issue arguments)⟩ →
        nowMillis surroundings.clock = .ok now →
          (run surroundings line session).1.result = .ok 0 ∨
            (run surroundings line session).1.result = .ok 1 := by
  intro ends
  have ended := ends Sample.surroundings Sample.blankLine Sample.session false
    Sample.blankArguments 0 Sample.read_blankLine Sample.nowMillis_surroundings
  rw [run_of_issue Sample.read_blankLine] at ended
  obtain ⟨sign, crashed⟩ := IssueArguments.result_of_crashes _
    (fun _ => Sample.nowMillis_surroundings) Sample.crashes_blank
  rw [crashed] at ended
  simp at ended

end Cli

end SealedToken
