import Bursary.Proofs.Provision
import Bursary.Proofs.Refusal
import Bursary.Service.Answer

/-! What requests do to the provider that they share. A request is turned away before the provider
is used: what comes before its first use may refuse the request, and what comes after it never does.
So a request that is turned away leaves no trace, and a sequence of requests leads to the same
provider without it. -/

namespace Bursary

/-! ### Steps that turn a request away -/

theorem ResolvedWeights.ofModel_accepts (model : Record) (source : Source) :
    Accepts (ofModel model source) :=
  (Value.textIfGiven_accepts _).bind fun _ => .ok _

theorem Provider.resolve_accepts (p : Provider) (id : Option String) :
    Accepts (p.resolve id).1 := by
  cases hl : p.live? id with
  | some r =>
    rw [resolve_of_live hl]
    exact .ok r
  | none =>
    rw [resolve_of_not_live hl]
    unfold consult
    split
    · exact .ok _
    · unfold settle
      split
      · split
        · exact ResolvedWeights.ofModel_accepts _ _
        · exact .ok _
      all_goals exact .ok _

namespace Provision

variable {α β : Type}

/-- A step that never blames the request, whatever provider it starts from. -/
def AlwaysAccepts (x : Provision α) : Prop := ∀ p, Accepts (runFrom x p).1

namespace AlwaysAccepts

variable {x : Provision α}

theorem pure (a : α) : AlwaysAccepts (Pure.pure a : Provision α) := fun _ => .ok a

theorem lift {e : Except Failure α} (h : Accepts e) : AlwaysAccepts (liftM e : Provision α) :=
  fun _ => h

theorem bind (hx : AlwaysAccepts x) {f : α → Provision β} (hf : ∀ a, AlwaysAccepts (f a)) :
    AlwaysAccepts (x >>= f) := by
  intro p
  have hrun := hx p
  rw [runFrom_bind]
  cases h : runFrom x p with
  | mk result q =>
    rw [h] at hrun
    cases result with
    | ok a => exact hf a q
    | error e => exact .error (hrun e rfl)

theorem map (hx : AlwaysAccepts x) {f : α → β} : AlwaysAccepts (f <$> x) := by
  rw [map_eq_pure_bind]
  exact hx.bind fun a => pure _

theorem resolve (id : Option String) : AlwaysAccepts (Provision.resolve id) :=
  fun p => p.resolve_accepts id

end AlwaysAccepts

/-- A step that leaves a provider as it is whenever it blames the request. -/
def RefusesFirst (x : Provision α) : Prop :=
  ∀ p f, (runFrom x p).1 = .error f → f.isRefusal = true → (runFrom x p).2 = p

namespace RefusesFirst

variable {x : Provision α}

theorem of_accepts (h : AlwaysAccepts x) : RefusesFirst x := by
  intro p f hf hrefusal
  cases hrefusal.symm.trans (h p f hf)

/-- What does not use the provider may come first. -/
theorem lift_bind {e : Except Failure β} {f : β → Provision α} (hf : ∀ b, RefusesFirst (f b)) :
    RefusesFirst (liftM e >>= f) := by
  intro p
  rw [runFrom_bind, runFrom_lift]
  cases e with
  | ok b => exact hf b p
  | error e => exact fun _ _ _ => rfl

end RefusesFirst

end Provision

namespace Matching

open Provision

theorem matchOne_accepts (s : Student) (scholarship : Scholarship) (o : MatchOptions) :
    AlwaysAccepts (matchOne s scholarship o) := by
  unfold matchOne
  refine (AlwaysAccepts.lift (evaluate_accepts s _)).bind fun verdict => ?_
  have hpredict : AlwaysAccepts (predict s scholarship) :=
    (AlwaysAccepts.resolve scholarship.id).bind fun r => .pure _
  by_cases hwants : wantsPrediction o verdict = true
  · simp only [hwants, ↓reduceIte]
    exact hpredict.map.bind fun prediction => .pure _
  · simp only [hwants, Bool.false_eq_true, ↓reduceIte]
    exact (AlwaysAccepts.pure none).bind fun prediction => .pure _

theorem collect_accepts (s : Student) (o : BatchOptions) (entries : List ScholarshipEntry) :
    AlwaysAccepts (collect s o entries) := by
  induction entries with
  | nil => exact .pure _
  | cons entry rest ih =>
    unfold collect
    have hread : Accepts entry.read := by
      cases entry with
      | ready scholarship => exact .ok _
      | raw v => exact Scholarship.ofValue_accepts v
    refine (AlwaysAccepts.lift hread).bind fun scholarship => ?_
    split
    · exact (matchOne_accepts s scholarship _).bind fun m => ih.bind fun ms => .pure _
    · exact ih

/-- A batch looks at its limit before anything else. -/
theorem batch_refusesFirst (student : StudentEntry) (entries : List ScholarshipEntry)
    (o : BatchOptions) : RefusesFirst (batch student entries o) :=
  -- the limit and the student, neither of which uses the provider, then the loop
  .lift_bind fun _ => .lift_bind fun s =>
    .of_accepts ((collect_accepts s o entries).bind fun _ => .pure _)

theorem runFrom_batch_of_negative (student : StudentEntry) (entries : List ScholarshipEntry)
    {o : BatchOptions} {n : Int} (hlimit : o.limit = some n) (hn : n < 0) (p : Provider) :
    runFrom (batch student entries o) p = (.error (.negativeLimit n), p) := by
  have hcheck : checkLimit o.limit = .error (.negativeLimit n) := by
    rw [hlimit, checkLimit, if_pos hn]
  rw [batch, hcheck]
  rfl

end Matching

namespace Service

open Provision

theorem matchOne_refusesFirst (r : MatchRequest) : RefusesFirst (matchOne r) :=
  .lift_bind fun _ => .lift_bind fun _ => .lift_bind fun s => .lift_bind fun scholarship =>
    .of_accepts (Matching.matchOne_accepts s scholarship r.options)

theorem matchBatch_refusesFirst (r : BatchRequest) : RefusesFirst (matchBatch r) :=
  .lift_bind fun _ => .lift_bind fun _ => Matching.batch_refusesFirst _ _ _

/-! ### One request -/

/-- A response that turns a request away. -/
def TurnsAway (response : Response) : Prop := response.status = 400 ∨ response.status = 422

instance (response : Response) : Decidable (TurnsAway response) :=
  inferInstanceAs (Decidable (_ ∨ _))

/-- An endpoint that asks for a verdict alone, or whether the service is up. -/
def IsBystander (e : Endpoint) : Prop := e ∈ [Endpoint.check, .quickCheck, .health]

instance (e : Endpoint) : Decidable (IsBystander e) := inferInstanceAs (Decidable (_ ∈ _))

theorem isRefusal_of_turnsAway {f : Failure} (h : TurnsAway (Response.ofFailure f)) :
    f.isRefusal = true := by
  cases f with
  | negativeLimit limit => rfl
  | notAnObject field => rfl
  | _ => rcases h with h | h <;> cases h

/-- What leaves a provider as it is when it blames the request does so when its result has become a
response. -/
theorem run_of_turnsAway {α : Type} {x : Provision α} (hx : RefusesFirst x) (toRecord : α → Record)
    (p : Provider) (h : TurnsAway (Response.ofResult toRecord (runFrom x p).1)) :
    (runFrom x p).2 = p := by
  cases hresult : (runFrom x p).1 with
  | ok a =>
    rw [hresult] at h
    rcases h with h | h <;> cases h
  | error f =>
    rw [hresult] at h
    exact hx p f hresult (isRefusal_of_turnsAway h)

/-- A body is answered as it is, or by what its form is replied to. -/
theorem withForm_cases {α : Type} (body : Body) (form : Record → Checked α)
    (reply : α → StateM Provider Response) :
    (∃ response, withForm body form reply = pure response) ∨
      ∃ a, withForm body form reply = reply a := by
  unfold withForm
  split
  · exact .inl ⟨_, rfl⟩
  · split
    · exact .inl ⟨_, rfl⟩
    · exact .inr ⟨_, rfl⟩

/-- What a body is answered leaves the provider as it is if the reply to its form does. -/
theorem withForm_run {α : Type} {body : Body} {form : Record → Checked α}
    {reply : α → StateM Provider Response} {p : Provider} {P : Response → Prop}
    (hreply : ∀ a, P ((reply a).run p).1 → ((reply a).run p).2 = p)
    (h : P ((withForm body form reply).run p).1) : ((withForm body form reply).run p).2 = p := by
  rcases withForm_cases body form reply with ⟨response, hform⟩ | ⟨a, hform⟩
  · rw [hform]
    rfl
  · rw [hform] at h ⊢
    exact hreply a h

/-- An endpoint leaves the provider as it is if it turns the request away, or is a bystander. -/
theorem answerAt_run {e : Endpoint} {r : Request} {p : Provider}
    (h : TurnsAway ((answerAt e r).run p).1 ∨ IsBystander e) : ((answerAt e r).run p).2 = p := by
  cases e with
  | root => rfl
  | health => rfl
  | check => exact withForm_run (P := fun _ => True) (fun a _ => rfl) trivial
  | quickCheck => exact withForm_run (P := fun _ => True) (fun a _ => rfl) trivial
  | matchOne =>
    have h := h.resolve_right (by decide)
    exact withForm_run (fun form => run_of_turnsAway (matchOne_refusesFirst form) _ p) h
  | matchBatch =>
    have h := h.resolve_right (by decide)
    exact withForm_run (fun form => run_of_turnsAway (matchBatch_refusesFirst form) _ p) h
  | importance =>
    have h := h.resolve_right (by decide)
    exact run_of_turnsAway (.of_accepts (.resolve _)) _ p h
  | clearCache =>
    rcases h with (h | h) | h
    · cases h
    · cases h
    · exact absurd h (by decide)

/-- A request that is turned away, or is for a bystander. -/
def IsIdle (r : Request) (response : Response) : Prop :=
  TurnsAway response ∨ ∃ e ∈ Endpoint.ofPath? r.path, IsBystander e

instance (r : Request) (response : Response) : Decidable (IsIdle r response) :=
  inferInstanceAs (Decidable (_ ∨ ∃ e ∈ Endpoint.ofPath? r.path, IsBystander e))

/-- An idle request leaves the provider as it is. -/
theorem answer_of_idle {r : Request} {p : Provider} (h : IsIdle r ((answer r).run p).1) :
    ((answer r).run p).2 = p := by
  unfold answer at h ⊢
  split at h
  case h_1 => rfl
  case h_2 e hpath =>
    split at h
    case isFalse hmethod =>
      rw [if_neg hmethod]
      rfl
    case isTrue hmethod =>
      rw [if_pos hmethod]
      refine answerAt_run (h.imp_right ?_)
      rintro ⟨e', he', hbystander⟩
      rw [hpath] at he'
      cases he'
      exact hbystander

/-! ### Requests one after the other -/

theorem answers_cons (r : Request) (rs : List Request) (p : Provider) :
    (answers (r :: rs)).run p =
      (((answer r).run p).1 :: ((answers rs).run ((answer r).run p).2).1,
        ((answers rs).run ((answer r).run p).2).2) := rfl

/-- The requests of a sequence that are not idle, with their responses. -/
def busy (rs : List Request) (p : Provider) : List (Request × Response) :=
  (rs.zip ((answers rs).run p).1).filter fun x => ¬IsIdle x.1 x.2

/-- Without its idle requests a sequence leads to the same provider, and the other requests are
answered the same. -/
theorem answers_busy (rs : List Request) (p : Provider) :
    (answers ((busy rs p).map (·.1))).run p =
      ((busy rs p).map (·.2), ((answers rs).run p).2) := by
  induction rs generalizing p with
  | nil => rfl
  | cons r rs ih =>
    unfold busy
    rw [answers_cons, List.zip_cons_cons]
    -- an idle request is dropped and leaves the provider from which the others start
    by_cases hidle : IsIdle r ((answer r).run p).1
    · rw [List.filter_cons_of_neg (by simpa using hidle), answer_of_idle hidle]
      exact ih p
    · rw [List.filter_cons_of_pos (by simpa using hidle), List.map_cons, answers_cons]
      have hrest := ih ((answer r).run p).2
      unfold busy at hrest
      rw [hrest]
      rfl

/-! ### Batches -/

/-- A request for a batch whose form can be read. -/
structure IsBatch (r : Request) (form : BatchRequest) : Prop where
  path : Endpoint.ofPath? r.path = some .matchBatch
  method : r.method = "POST"
  body : ∃ fields, bodyFields r.body = .ok fields ∧ Form.batchRequest fields = .ok form

theorem IsBatch.answer_run {r : Request} {form : BatchRequest} (h : IsBatch r form) (p : Provider) :
    (answer r).run p = (Response.ofResult Response.batchRecord (runFrom (matchBatch form) p).1,
      (runFrom (matchBatch form) p).2) := by
  obtain ⟨fields, hfields, hform⟩ := h.body
  have hmethod : (r.method == Endpoint.matchBatch.method) = true := beq_iff_eq.mpr h.method
  rw [answer, h.path]
  simp only [hmethod, ↓reduceIte, answerAt, withForm, hfields, hform]
  rfl

/-- The report on a part of a request that should be a record. -/
def noRecord (part : String) : Response := Response.ofFailure (.notAnObject part)

/-- What a scholarship of a batch is called. -/
def partAt (position : Nat) : String := "scholarships[" ++ Decimal.natText position ++ "]"

theorem requireRecord_of_none {part : String} {v : Value} (h : v.record? = none) :
    requireRecord part v = .error (.notAnObject part) := by
  cases v with
  | record es => cases h
  | _ => rfl

theorem requireRecord_of_isSome {part : String} {v : Value} (h : v.record?.isSome = true) :
    requireRecord part v = .ok v := by
  cases v with
  | record es => rfl
  | _ => cases h

theorem requireScholarships_of_none {front back : List Value} {v : Value} (position : Nat)
    (hfront : ∀ w ∈ front, w.record?.isSome = true) (hv : v.record? = none) :
    requireScholarships position (front ++ v :: back) =
      .error (.notAnObject (partAt (position + front.length))) := by
  induction front generalizing position with
  | nil =>
    rw [List.nil_append, requireScholarships, requireRecord_of_none hv]
    rfl
  | cons w front ih =>
    obtain ⟨hw, hfront⟩ := List.forall_mem_cons.mp hfront
    rw [List.cons_append, requireScholarships, requireRecord_of_isSome hw, ok_bind,
      ih (position + 1) hfront, List.length_cons, Nat.add_right_comm, Nat.add_assoc]
    rfl

/-- A batch with a scholarship that is no record, wherever it stands, is turned away for the first
one of its kind; the scholarships before it have no effect. -/
theorem IsBatch.answer_of_no_record {r : Request} {form : BatchRequest} (h : IsBatch r form)
    (hstudent : form.student.record?.isSome = true) {v : Value} (hmem : v ∈ form.scholarships)
    (hv : v.record? = none) (p : Provider) :
    ∃ front w back, form.scholarships = front ++ w :: back ∧
      (∀ x ∈ front, x.record?.isSome = true) ∧ w.record? = none ∧
      (answer r).run p = (noRecord (partAt front.length), p) := by
  have hfind : (form.scholarships.find? (·.record?.isNone)).isSome = true :=
    List.find?_isSome.mpr ⟨v, hmem, Option.isNone_iff_eq_none.mpr hv⟩
  obtain ⟨w, hw⟩ := Option.isSome_iff_exists.mp hfind
  obtain ⟨hw, front, back, hsplit, hfront⟩ := List.find?_eq_some_iff_append.mp hw
  rw [Option.isNone_iff_eq_none] at hw
  have hfront' : ∀ x ∈ front, x.record?.isSome = true := fun x hx => by simpa using hfront x hx
  refine ⟨front, w, back, hsplit, hfront', hw, ?_⟩
  have hrun : runFrom (matchBatch form) p = (.error (.notAnObject (partAt front.length)), p) := by
    rw [matchBatch, requireRecord_of_isSome hstudent, hsplit,
      requireScholarships_of_none 0 hfront' hw, Nat.zero_add]
    rfl
  rw [h.answer_run, hrun]
  rfl

/-- Wherever a sequence of requests has brought the provider that they share, a request that is
turned away, and one for a verdict alone or for the state of the service, leaves it as it is: its
cache, and how often the store has been asked. So all these requests may be left out of a sequence.
A batch with a scholarship that is no record is turned away, wherever that stands; and a batch with
a negative limit is, whatever the student and the scholarships are. -/
theorem provider_of_idle_requests :
    (∀ (p : Provider) (before : List Request) (r : Request),
      let q := ((answers before).run p).2
      IsIdle r ((answer r).run q).1 → ((answer r).run q).2 = q) ∧
    (∀ (p : Provider) (rs : List Request),
      (answers ((busy rs p).map (·.1))).run p =
        ((busy rs p).map (·.2), ((answers rs).run p).2)) ∧
    (∀ (p : Provider) (r : Request) (form : BatchRequest), IsBatch r form →
      form.student.record?.isSome = true → ∀ v ∈ form.scholarships, v.record? = none →
        ∃ front w back, form.scholarships = front ++ w :: back ∧
          (∀ x ∈ front, x.record?.isSome = true) ∧ w.record? = none ∧
          (answer r).run p = (noRecord (partAt front.length), p)) ∧
    (∀ (p : Provider) (student : StudentEntry) (entries : List ScholarshipEntry)
      (o : BatchOptions) (n : Int), o.limit = some n → n < 0 →
        runFrom (Matching.batch student entries o) p = (.error (.negativeLimit n), p)) := by
  refine ⟨fun p before r h => answer_of_idle h, fun p rs => answers_busy rs p, ?_, ?_⟩
  · intro p r form hbatch hstudent v hmem hv
    exact hbatch.answer_of_no_record hstudent hmem hv p
  · intro p student entries o n hlimit hn
    exact Matching.runFrom_batch_of_negative student entries hlimit hn p

/-- A match has left one set of weights in the cache. A batch whose third scholarship is a text, one
of at most no matches, and a health request all leave it there. -/
theorem provider_of_four_requests :
    let store : ModelStore := { models := [("s-1", .record [("accuracy", .real 0.9)])] }
    let p := Provider.fresh {} (some store.toRegistry)
    let post (path : String) (fields : Record) : Request :=
      { method := "POST", path, body := .json (.record (("student", .record []) :: fields)) }
    let known : Value := .record [("id", .text "s-1")]
    let other : Value := .record [("id", .text "s-2")]
    let found := post "/eligibility/match" [("scholarship", known)]
    let batch (fields : Record) := post "/eligibility/match/batch" fields
    let mixed := batch [("scholarships", .list [known, other, .text "s-3"])]
    let empty := batch [("scholarships", .list [other]), ("limit", .whole 0)]
    let health : Request := { method := "GET", path := "/eligibility/health/" }
    let q := ((answers [found]).run p).2
    q.calls = 1 ∧ q.cache.size = 1 ∧
      ((answer mixed).run q).1.status = 400 ∧ ((answer mixed).run q).2 = q ∧
      ((answer empty).run q).1.status = 422 ∧ ((answer empty).run q).2 = q ∧
      ((answer health).run q).2 = q ∧
      runFrom (Matching.batch (.raw known) [.raw other] { limit := some (-1) }) q =
        (.error (.negativeLimit (-1)), q) := by
  intro store p post known other found batch mixed empty health q
  obtain ⟨hidle, -, hbatch, hlimit⟩ := provider_of_idle_requests
  have hmixed : IsBatch mixed ⟨.record [], [known, other, .text "s-3"], {}⟩ :=
    ⟨by decide, rfl, _, rfl, rfl⟩
  obtain ⟨front, w, back, -, -, -, hrun⟩ :=
    hbatch q mixed _ hmixed rfl (.text "s-3") (by simp) rfl
  have hempty : ((answer empty).run q).1.status = 422 := by decide +kernel
  refine ⟨by decide +kernel, by decide +kernel, ?_, ?_, hempty, ?_, ?_, ?_⟩
  · rw [hrun]
    rfl
  · rw [hrun]
  · exact hidle p [found] empty (.inl (.inr hempty))
  · exact hidle p [found] health (.inr ⟨.health, by decide, by decide⟩)
  · exact hlimit q _ _ _ (-1) rfl (by decide)

end Service

end Bursary
