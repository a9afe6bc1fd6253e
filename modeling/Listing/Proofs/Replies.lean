import Listing.Reply

/-!
# Replies that can be sent

A reply can be sent unless an object, or an integer that is too long to be written, stands somewhere
in its members. Putting members over others brings in nothing of the kind
(`membersFailure?_overlay`), so that it is enough to look at the error and at the data of a reply
(`Reply.exists_sent`). Rejections and reports of failures are made of texts, and are always sent.

Where every answer is sent as a success, the body has to tell the status. The data of a reply are
put over the status, so that it does exactly if they leave the status alone
(`Reply.tellsStatus_iff`).
-/

namespace Listing

/-! ## What can stand in a body -/

theorem membersFailure?_append (before after : Members) :
    Value.membersFailure? (before ++ after) =
      (Value.membersFailure? before).or (Value.membersFailure? after) := by
  induction before with
  | nil => rfl
  | cons m rest ih =>
    rw [List.cons_append, Value.membersFailure?, Value.membersFailure?, ih, Option.or_assoc]

theorem membersFailure?_put {members : Members} {key : Text} {value : Value}
    (plain : Value.membersFailure? members = none) (valuePlain : value.bodyFailure? = none) :
    Value.membersFailure? (members.put key value) = none := by
  induction members with
  | nil =>
    rw [Members.put, Value.membersFailure?, valuePlain]
    rfl
  | cons m rest ih =>
    obtain ⟨k, v⟩ := m
    rw [Value.membersFailure?, Option.or_eq_none_iff] at plain
    rw [Members.put]
    split
    · rw [Value.membersFailure?, valuePlain, plain.2]
      rfl
    · rw [Value.membersFailure?, plain.1, ih plain.2]
      rfl

theorem membersFailure?_overlay {members later : Members}
    (plain : Value.membersFailure? members = none)
    (laterPlain : Value.membersFailure? later = none) :
    Value.membersFailure? (members.overlay later) = none := by
  unfold Members.overlay
  induction later generalizing members with
  | nil => exact plain
  | cons m rest ih =>
    rw [Value.membersFailure?, Option.or_eq_none_iff] at laterPlain
    exact ih (membersFailure?_put plain laterPlain.1) laterPlain.2

theorem itemsFailure?_map {α : Type} {f : α → Value} (plain : ∀ a, (f a).bodyFailure? = none)
    (items : List α) : Value.itemsFailure? (items.map f) = none := by
  induction items with
  | nil => rfl
  | cons a rest ih =>
    rw [List.map_cons, Value.itemsFailure?, plain, ih]
    rfl

theorem Value.asBody_eq_ok_iff {v body : Value} :
    v.asBody = .ok body ↔ v.bodyFailure? = none ∧ v.toBody = body := by
  unfold Value.asBody
  cases v.bodyFailure? <;> simp

namespace Reply
variable {reply : Reply} {p : Preferences} {debug : Bool} {http : Int} {body : Value}

/-! ## What is sent -/

/-- The members of the body as it is sent. -/
def sentMembers (reply : Reply) (p : Preferences) (debug : Bool) : Members :=
  if p.alwaysOk then reply.membersInBody debug else reply.members

theorem sent_eq_ok_iff :
    reply.sent p debug = .ok (http, body) ↔
      Value.membersFailure? (reply.sentMembers p debug) = none ∧
        http = (if p.alwaysOk then 200 else reply.status) ∧
          body = .dict (Value.bodyMembers (reply.sentMembers p debug)) := by
  have split : reply.sent p debug =
      (Value.dict (reply.sentMembers p debug)).asBody.map
        ((if p.alwaysOk then 200 else reply.status), ·) := by
    rw [sent, sentMembers]
    cases p.alwaysOk <;> rfl
  rw [split, map_eq_ok_iff]
  simp only [Value.asBody_eq_ok_iff, Value.bodyFailure?, Value.toBody]
  constructor
  · rintro ⟨_, ⟨plain, rfl⟩, same⟩
    cases same
    exact ⟨plain, rfl, rfl⟩
  · rintro ⟨plain, rfl, rfl⟩
    exact ⟨_, ⟨plain, rfl⟩, rfl⟩

theorem bodyFailure?_status (reply : Reply) : (Value.int reply.status).bodyFailure? = none := by
  rw [status]
  split
  · rfl
  · split <;> rfl

/-- A reply of values that can stand in a body can be sent, with its own status unless every answer
is sent as a success. -/
theorem exists_sent (error : reply.error.bodyFailure? = none)
    (data : Value.membersFailure? reply.data = none) (p : Preferences) (debug : Bool) :
    ∃ body, reply.sent p debug = .ok (if p.alwaysOk then 200 else reply.status, body) := by
  have own {condition : Bool} {rest : Members} (plain : Value.membersFailure? rest = none) :
      Value.membersFailure? (if condition then [("error", reply.error)] else rest) = none := by
    split
    · rw [Value.membersFailure?, error]
      rfl
    · exact plain
  refine ⟨_, sent_eq_ok_iff.2 ⟨?_, rfl, rfl⟩⟩
  unfold sentMembers
  cases p.alwaysOk with
  | false => exact membersFailure?_overlay (own rfl) data
  | true =>
    have shown : Value.membersFailure? reply.shownError = none := by
      apply own
      split
      · rfl
      · rfl
    have status : Value.membersFailure? reply.membersWithStatus = none := by
      apply membersFailure?_overlay _ data
      rw [membersFailure?_append, shown, Value.membersFailure?, bodyFailure?_status]
      rfl
    show Value.membersFailure? (reply.membersInBody debug) = none
    unfold membersInBody
    split
    · exact membersFailure?_put status error
    · exact status

theorem status_of_code :
    (reply.code = "BAD_REQUEST".toList → reply.status = 400) ∧
      (reply.code = "INTERNAL_ERROR".toList → reply.status = 500) := by
  unfold status success
  constructor
  · intro code
    rw [code]
    decide
  · intro code
    rw [code]
    decide

end Reply

theorem exists_sent_ofOutcome (o : Outcome) (p : Preferences) (debug : Bool) :
    ∃ body, (Reply.ofOutcome o).sent p debug = .ok (if p.alwaysOk then 200 else 400, body) := by
  have faultPlain (f : Fault) : f.record.bodyFailure? = none := by
    cases f <;> rfl
  have warningPlain (w : Warning) : (Value.text w.message).bodyFailure? = none := rfl
  have data : Value.membersFailure? (Reply.ofOutcome o).data = none := by
    show Value.membersFailure? [("errors", .list (o.faults.map Fault.record)),
      ("warnings", .list (o.warnings.map fun w => .text w.message))] = none
    rw [Value.membersFailure?, Value.bodyFailure?, itemsFailure?_map faultPlain,
      Value.membersFailure?, Value.bodyFailure?, itemsFailure?_map warningPlain]
    rfl
  have status : (Reply.ofOutcome o).status = 400 := Reply.status_of_code.1 rfl
  rw [← status]
  exact Reply.exists_sent rfl data p debug

theorem exists_sent_ofFailure (failure : Failure) (p : Preferences) (debug : Bool) :
    ∃ body,
      (Reply.ofFailure failure).sent p debug = .ok (if p.alwaysOk then 200 else 500, body) := by
  have status : (Reply.ofFailure failure).status = 500 := Reply.status_of_code.2 rfl
  rw [← status]
  exact Reply.exists_sent rfl rfl p debug

/-! ## The status in the body -/

/-- Of the members put over others, the last one of a name is the one that stays. -/
theorem Members.get?_overlay (members later : Members) (key : Text) :
    (members.overlay later).get? key = (get? later.reverse key).or (members.get? key) := by
  unfold overlay
  induction later generalizing members with
  | nil => rfl
  | cons m rest ih =>
    have single : get? [m] key = if key = m.1 then some m.2 else none := get?_cons m.1 key m.2 []
    have split : get? (rest.reverse ++ [m]) key = (get? rest.reverse key).or (get? [m] key) :=
      List.lookup_append
    rw [List.foldl_cons, ih, get?_put, List.reverse_cons, split, Option.or_assoc, single]
    by_cases same : key = m.1 <;> simp [same]

theorem Members.get?_bodyMembers (members : Members) (key : Text) :
    get? (Value.bodyMembers members) key = (members.get? key).map Value.toBody := by
  induction members with
  | nil => rfl
  | cons m rest ih =>
    obtain ⟨k, v⟩ := m
    rw [Value.bodyMembers, get?_cons, get?_cons, ih]
    by_cases same : key = k <;> simp [same]

theorem Value.toBody_same_int (v : Value) (i : Int) :
    v.toBody.same (.int i) = v.same (.int i) := by
  cases v <;> simp [toBody, same]

theorem Value.toBody_eq_flag_iff {v : Value} {b : Bool} :
    v.toBody = .flag b ↔ v = .flag b := by
  cases v <;> simp [toBody]

/-- A body tells a status: the status is a member of it, and it is marked as a success exactly for
the status of a success. -/
structure TellsStatus (body : Members) (status : Int) : Prop where
  told : ∃ v, body.get? "status_code" = some v ∧ v.same (.int status) = true
  marked : body.get? "success" = some (.flag true) ↔ status = 200

namespace Reply

/-- What the data of a reply put under a name: of several members, the last. -/
def own? (reply : Reply) (name : Text) : Option Value :=
  Members.get? reply.data.reverse name

/-- The data of a reply leave its status alone: what they put in the place of the status or of the
mark of success says the same. -/
structure LeavesStatus (reply : Reply) : Prop where
  told : ∀ v, reply.own? "status_code" = some v → v.same (.int reply.status) = true
  marked : ∀ v, reply.own? "success" = some v → (v = .flag true ↔ reply.status = 200)

variable {reply : Reply} {debug : Bool}

theorem success_iff (reply : Reply) : reply.success = true ↔ reply.status = 200 := by
  rw [status]
  by_cases succeeds : reply.success = true
  · rw [if_pos succeeds]
    exact iff_of_true succeeds rfl
  · rw [if_neg succeeds]
    refine iff_of_false succeeds ?_
    split <;> decide

/-- What a body with the status shows under a name that is not the one for debugging: what the data
put there, or else what was there before. -/
theorem get?_membersInBody {name : Text} (apart : name ≠ "exception".toList) :
    (reply.membersInBody debug).get? name =
      (reply.own? name).or (Members.get? ([("status_code".toList, .int reply.status),
        ("success".toList, .flag reply.success)] ++ reply.shownError) name) := by
  unfold membersInBody
  split
  · rw [Members.get?_put, if_neg apart, membersWithStatus, Members.get?_overlay]
    rfl
  · rw [membersWithStatus, Members.get?_overlay]
    rfl

theorem get?_body_status_code :
    (reply.membersInBody debug).get? "status_code" =
      some ((reply.own? "status_code").getD (.int reply.status)) := by
  rw [get?_membersInBody (by decide), List.cons_append, Members.get?_cons, if_pos rfl]
  cases reply.own? "status_code" <;> rfl

theorem get?_body_success :
    (reply.membersInBody debug).get? "success" =
      some ((reply.own? "success").getD (.flag reply.success)) := by
  rw [get?_membersInBody (by decide), List.cons_append, Members.get?_cons, if_neg (by decide),
    List.cons_append, Members.get?_cons, if_pos rfl]
  cases reply.own? "success" <;> rfl

/-- A body with the status tells it exactly if the data leave it alone. -/
theorem tellsStatus_body_iff :
    TellsStatus (Value.bodyMembers (reply.membersInBody debug)) reply.status ↔
      reply.LeavesStatus := by
  have told : (∃ v, Members.get? (Value.bodyMembers (reply.membersInBody debug)) "status_code" =
        some v ∧ v.same (.int reply.status) = true) ↔
      ∀ v, reply.own? "status_code" = some v → v.same (.int reply.status) = true := by
    rw [Members.get?_bodyMembers, get?_body_status_code]
    cases reply.own? "status_code" with
    | none => simp [Value.toBody]
    | some v => simp [Value.toBody_same_int]
  have marked : (Members.get? (Value.bodyMembers (reply.membersInBody debug)) "success" =
        some (.flag true) ↔ reply.status = 200) ↔
      ∀ v, reply.own? "success" = some v → (v = .flag true ↔ reply.status = 200) := by
    rw [Members.get?_bodyMembers, get?_body_success, Option.map_some, Option.some.injEq,
      Value.toBody_eq_flag_iff]
    cases reply.own? "success" with
    | none => simp [success_iff]
    | some v => simp
  constructor
  · intro tells
    exact ⟨told.1 tells.told, marked.1 tells.marked⟩
  · intro leaves
    exact ⟨told.2 leaves.told, marked.2 leaves.marked⟩

/-- Where every answer is sent as a success, the body tells the status with which the reply would be
sent otherwise, exactly if the data leave the status alone; no other part of a reply, and no
debugging, makes a difference. A reply of values that can stand in a body is sent in both ways. -/
theorem tellsStatus_iff (reply : Reply) (p : Preferences) (debug : Bool) :
    (reply.error.bodyFailure? = none → Value.membersFailure? reply.data = none →
      (∃ body, reply.sent { p with alwaysOk := true } debug = .ok (200, body)) ∧
        ∃ plain, reply.sent { p with alwaysOk := false } debug = .ok (reply.status, plain)) ∧
      ∀ http status body plain,
        reply.sent { p with alwaysOk := true } debug = .ok (http, body) →
        reply.sent { p with alwaysOk := false } debug = .ok (status, plain) →
          http = 200 ∧ ∃ members, body = .dict members ∧
            (TellsStatus members status ↔ reply.LeavesStatus) := by
  constructor
  · intro error data
    exact ⟨exists_sent error data { p with alwaysOk := true } debug,
      exists_sent error data { p with alwaysOk := false } debug⟩
  · intro http status body plain on off
    obtain ⟨-, rfl, rfl⟩ := sent_eq_ok_iff.1 on
    obtain ⟨-, rfl, -⟩ := sent_eq_ok_iff.1 off
    exact ⟨rfl, _, rfl, tellsStatus_body_iff⟩

/-- An internal error whose data repeat its status, while debugging. -/
theorem tellsStatus_repeated :
    let reply : Reply :=
      ⟨"INTERNAL_ERROR", .text "boom", [("hint", .text "retry"), ("status_code", .int 500)]⟩
    reply.error.bodyFailure? = none ∧ Value.membersFailure? reply.data = none ∧
      ∃ members plain, reply.sent { alwaysOk := true } true = .ok (200, .dict members) ∧
        reply.sent {} true = .ok (500, plain) ∧ TellsStatus members 500 := by
  intro reply
  have error : reply.error.bodyFailure? = none := rfl
  have data : Value.membersFailure? reply.data = none := rfl
  have leaves : reply.LeavesStatus := by
    constructor
    · intro v own
      cases own
      show (Value.int 500).same (.int 500) = true
      simp
    · intro v own
      cases own
  obtain ⟨⟨body, on⟩, plain, off⟩ := (tellsStatus_iff reply {} true).1 error data
  obtain ⟨-, members, rfl, tells⟩ := (tellsStatus_iff reply {} true).2 _ _ _ _ on off
  exact ⟨error, data, members, plain, on, off, tells.2 leaves⟩

/-- Members of the data that stand in the place of the status: a rejection is shown as a success. -/
theorem tellsStatus_member_fails :
    ∃ (reply : Reply) (body : Members) (plain : Value),
      Reply.ofError "BAD_REQUEST" (.text "Invalid query")
        [("status_code", .int 200), ("success", .flag true)] = .ok reply ∧
      reply.sent { alwaysOk := true } false = .ok (200, .dict body) ∧
      reply.sent {} false = .ok (400, plain) ∧
      body.get? "status_code" = some (.int 200) ∧ body.get? "success" = some (.flag true) ∧
      ¬ TellsStatus body 400 := by
  refine ⟨_, _, _, rfl, rfl, rfl, rfl, rfl, fun tells => ?_⟩
  exact absurd (tells.marked.1 rfl) (by decide)

end Reply

end Listing
