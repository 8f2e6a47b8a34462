import ClusterVolumes.Hypervisor.Client
import ClusterVolumes.Proofs.Http.Runs
import ClusterVolumes.Site.Server

/-!
# Sessions with a cluster

A user logs in to a cluster and shows the ticket that is issued with every request, until it is rejected; then the user
logs in once more and sends the request again. A `Session` is a sequence of calls, and the cluster may issue and reject
tickets in it as it likes.

One call goes a `Course`: an `Attempt` to send the request, and another one if the ticket was rejected; each attempt is
`Authorized` first, by a ticket or by a token. What is said of calls is read off these courses (`perform_orderly`). Over
a session the ticket that is held is the one that was issued last, and each request showed the one that was issued last
before it (`Session.last`).
-/

namespace ClusterVolumes.Hypervisor.Client

open Http (Method Reply Sent)

variable {α β : Type}

/-! ## Runs -/

/-- A run of some use of a cluster, whatever the cluster replies: it begins with a ticket or without one and with what
was sent so far, and comes to an outcome, to the ticket that is held then and to what was sent by then. -/
def Use.RunsTo (u : Use α) (held : Option Ticket) (past : Sent) (outcome : Except Failure α) (held' : Option Ticket)
    (now : Sent) : Prop :=
  (u.run.run held).RunsTo Program.anyAnswers past (outcome, held') now

namespace Use

variable {held held' : Option Ticket} {past now : Sent}

theorem runsTo_pure {a : α} {outcome : Except Failure α} :
    (pure a : Use α).RunsTo held past outcome held' now ↔ outcome = .ok a ∧ held' = held ∧ now = past := by
  refine Program.runsTo_done.trans ?_
  rw [Prod.mk.injEq, and_assoc]

theorem runsTo_throw {e : Failure} {outcome : Except Failure α} :
    (throw e : Use α).RunsTo held past outcome held' now ↔ outcome = .error e ∧ held' = held ∧ now = past := by
  refine Program.runsTo_done.trans ?_
  rw [Prod.mk.injEq, and_assoc]

/-- A run of a sequence goes on with the value of its first part, or ends with its failure. -/
theorem runsTo_bind {u : Use α} {f : α → Use β} {outcome : Except Failure β} :
    (u >>= f).RunsTo held past outcome held' now ↔
      (∃ a ticket t, u.RunsTo held past (.ok a) ticket t ∧ (f a).RunsTo ticket t outcome held' now) ∨
        ∃ e, outcome = .error e ∧ u.RunsTo held past (.error e) held' now := by
  unfold RunsTo
  rw [ExceptT.run_bind, StateT.run_bind]
  refine Program.runsTo_bind.trans ?_
  constructor
  · rintro ⟨⟨e | a, ticket⟩, t, first, rest⟩
    · obtain ⟨last, rfl⟩ := Program.runsTo_done.mp rest
      obtain ⟨rfl, rfl⟩ := Prod.mk.inj last
      exact .inr ⟨e, rfl, first⟩
    · exact .inl ⟨a, ticket, t, first, rest⟩
  · rintro (⟨a, ticket, t, first, rest⟩ | ⟨e, rfl, first⟩)
    · exact ⟨(.ok a, ticket), t, first, rest⟩
    · exact ⟨(.error e, held'), now, first, .done _ _⟩

theorem runsTo_heldTicket {f : Option Ticket → Use β} {outcome : Except Failure β} :
    (heldTicket >>= f).RunsTo held past outcome held' now ↔ (f held).RunsTo held past outcome held' now :=
  Iff.rfl

theorem runsTo_holdTicket {ticket : Option Ticket} {u : Use β} {outcome : Except Failure β} :
    (holdTicket ticket >>= fun _ => u).RunsTo held past outcome held' now ↔
      u.RunsTo ticket past outcome held' now :=
  Iff.rfl

end Use

/-! ## Requests and replies -/

/-- The body of a request with a form, and the header that says so. -/
def formHeaders (fields : List (String × String)) : List (String × String) :=
  if fields.isEmpty then [] else [("content-type", "application/x-www-form-urlencoded")]

/-- What is sent with some headers, none if it is not fit to be sent. -/
def request? (c : Client) (method : Method) (path : String) (fields headers : List (String × String)) :
    Option Http.Request :=
  (Http.pathOfAddress? c.address).bind fun base =>
    if headers.all fun h => Http.isHeaderValue h.2 then
      some
        { method, target := Http.sentTarget (base ++ path), headers := headers ++ formHeaders fields
          body := if fields.isEmpty then "" else Http.form fields }
    else none

/-- What comes of a reply, or of none. -/
def replied : Option Reply → Except Failure Reply
  | some reply => .ok reply
  | none => .error .transport

/-- What is read from a reply. -/
def reading (c : Client) (codec : Codec α) (r : Reply) : Except Failure α :=
  if Http.isSuccess r.status then
    match codec.ofText r.body with
    | .ok a => .ok a
    | .error _ => .error .badJson
  else .error (.clusterApi c.region (some r.status) (refusalReason r))

section

variable (c : Client) {held held' : Option Ticket} {past now : Sent}

/-- To transmit is to send the request and to take the reply, if the request is fit to be sent. -/
theorem transmit_eq (method : Method) (path : String) (fields headers : List (String × String)) :
    c.transmit method path fields headers =
      match c.request? method path fields headers with
      | none => throw .transport
      | some q => ExceptT.lift (StateT.lift (Http.send q)) >>= fun
        | some reply => pure reply
        | none => throw .transport := by
  unfold transmit request?
  cases Http.pathOfAddress? c.address with
  | none => rfl
  | some base =>
    by_cases fit : (headers.all fun h => Http.isHeaderValue h.2) = true
    · by_cases blank : fields.isEmpty
      all_goals
        simp only [fit, blank, formHeaders, Option.bind_some, Bool.not_true, if_true, List.append_nil]
        rfl
    · simp [fit]

theorem runsTo_transmit {method : Method} {path : String} {fields headers : List (String × String)}
    {outcome : Except Failure Reply}
    (run : (c.transmit method path fields headers).RunsTo held past outcome held' now) :
    held' = held ∧
      ((c.request? method path fields headers = none ∧ outcome = .error .transport ∧ now = past) ∨
        ∃ q x, c.request? method path fields headers = some q ∧ outcome = replied x ∧ now = ⟨q, x⟩ :: past) := by
  rw [transmit_eq] at run
  cases request : c.request? method path fields headers with
  | none =>
    rw [request] at run
    obtain ⟨rfl, rfl, rfl⟩ := Use.runsTo_throw.mp run
    exact ⟨rfl, .inl ⟨rfl, rfl, rfl⟩⟩
  | some q =>
    rw [request] at run
    obtain ⟨x, t, rfl, rest⟩ := Program.runsTo_ask.mp run
    cases x with
    | none =>
      obtain ⟨rfl, rfl, rfl⟩ := Use.runsTo_throw.mp rest
      exact ⟨rfl, .inr ⟨q, none, rfl, rfl, rfl⟩⟩
    | some reply =>
      obtain ⟨rfl, rfl, rfl⟩ := Use.runsTo_pure.mp rest
      exact ⟨rfl, .inr ⟨q, some reply, rfl, rfl, rfl⟩⟩

theorem runsTo_read {codec : Codec α} {reply : Reply} {outcome : Except Failure α} :
    (c.read codec reply).RunsTo held past outcome held' now ↔
      outcome = c.reading codec reply ∧ held' = held ∧ now = past := by
  unfold read reading
  split
  · cases codec.ofText reply.body with
    | ok a => exact Use.runsTo_pure
    | error e => exact Use.runsTo_throw
  · exact Use.runsTo_throw

end

/-! ## Tickets -/

/-- The headers with which a ticket is shown. -/
def ticketHeaders (t : Ticket) (method : Method) : List (String × String) :=
  ("cookie", "PVEAuthCookie=" ++ t.cookie) :: if method = .get then [] else [("csrfpreventiontoken", t.token)]

/-- A request with which neither a ticket nor a token is shown is a login. -/
def isLogin (q : Http.Request) : Bool :=
  !q.headers.any fun h => h.1 = "cookie" || h.1 = "authorization"

/-- The login of a user, none if it cannot be sent or the client has a token. -/
def login? (c : Client) : Option Http.Request :=
  match c.credentials with
  | .password username password =>
    c.request? .post "/access/ticket" [("username", username), ("password", password)] []
  | .token .. => none

/-- The ticket that is issued with a reply. -/
def ticketOf? (c : Client) (x : Option Reply) : Option Ticket :=
  x.bind fun reply => (c.reading (envelope Ticket.record.codec none) reply).toOption

/-- The ticket that was issued last. -/
def issued? (c : Client) : Sent → Option Ticket
  | [] => none
  | e :: past => if isLogin e.request then c.ticketOf? e.answer <|> c.issued? past else c.issued? past

/-- Was the request answered that the one who sent it is not let in? -/
def isRejected (e : Program.Exchange Http.server) : Bool :=
  (e.answer : Option Reply).any fun reply => reply.status = 401

/-- Is it the failure of a request that was rejected? -/
def isRejection : Failure → Bool
  | .clusterApi _ status _ => status = some 401
  | _ => false

section

variable (c : Client)

theorem headers_of_request? {method : Method} {path : String} {fields headers : List (String × String)}
    {q : Http.Request} (h : c.request? method path fields headers = some q) :
    q.method = method ∧ q.headers = headers ++ formHeaders fields := by
  unfold request? at h
  obtain ⟨base, -, h⟩ := Option.bind_eq_some_iff.mp h
  split at h
  · cases h
    exact ⟨rfl, rfl⟩
  · cases h

theorem isLogin_login? {q : Http.Request} (h : c.login? = some q) : isLogin q = true := by
  unfold login? at h
  split at h
  · unfold isLogin
    rw [(c.headers_of_request? h).2]
    rfl
  · cases h

theorem reading_rejected {codec : Codec α} {reply : Reply} {f : Failure} (h : c.reading codec reply = .error f)
    (hf : isRejection f = true) : reply.status = 401 := by
  unfold reading at h
  split at h
  · split at h
    · cases h
    · cases h
      cases hf
  · cases h
    simpa [isRejection] using hf

end

/-! ## The courses of a call -/

/-- How a request is authorized: what is sent for it, what comes of it, and the ticket that is held then. -/
inductive Authorized (c : Client) (method : Method) :
    Option Ticket → Sent → Except Failure (List (String × String)) → Option Ticket → Prop
  /-- A token is shown. -/
  | token {held : Option Ticket} {id secret : String} : c.credentials = .token id secret →
      Authorized c method held [] (.ok [("authorization", "PVEAPIToken=" ++ id ++ "=" ++ secret)]) held
  /-- The ticket is shown that is held. -/
  | held {t : Ticket} : c.credentials.isLogin = true →
      Authorized c method (some t) [] (.ok (ticketHeaders t method)) (some t)
  /-- A ticket is issued and shown. -/
  | issued {q : Http.Request} {x : Option Reply} {t : Ticket} : c.credentials.isLogin = true → c.login? = some q →
      c.ticketOf? x = some t → Authorized c method none [⟨q, x⟩] (.ok (ticketHeaders t method)) (some t)
  /-- No ticket is issued. -/
  | refused {q : Http.Request} {x : Option Reply} {f : Failure} : c.credentials.isLogin = true → c.login? = some q →
      (isRejection f = true → isRejected ⟨q, x⟩ = true) → Authorized c method none [⟨q, x⟩] (.error f) none
  /-- The login cannot be sent. -/
  | unsendable : c.credentials.isLogin = true → Authorized c method none [] (.error .transport) none

/-- How a request is sent. -/
inductive Attempt (c : Client) (method : Method) (path : String) (fields : List (String × String)) :
    Option Ticket → Sent → Except Failure Reply → Option Ticket → Prop
  | unauthorized {held held' : Option Ticket} {made : Sent} {f : Failure} :
      c.Authorized method held made (.error f) held' → Attempt c method path fields held made (.error f) held'
  | unsendable {held held' : Option Ticket} {made : Sent} {headers : List (String × String)} :
      c.Authorized method held made (.ok headers) held' → c.request? method path fields headers = none →
        Attempt c method path fields held made (.error .transport) held'
  | sent {held held' : Option Ticket} {made : Sent} {headers : List (String × String)} {q : Http.Request}
      {x : Option Reply} : c.Authorized method held made (.ok headers) held' →
        c.request? method path fields headers = some q →
          Attempt c method path fields held (⟨q, x⟩ :: made) (replied x) held'

/-- How a request is sent, and once more if a ticket was rejected. -/
inductive Course (c : Client) (method : Method) (path : String) (fields : List (String × String)) :
    Option Ticket → Sent → Except Failure Reply → Option Ticket → Prop
  | once {held held' : Option Ticket} {made : Sent} {outcome : Except Failure Reply} :
      c.Attempt method path fields held made outcome held' →
        (∀ reply, outcome = .ok reply → reply.status = 401 → c.credentials.isLogin = false) →
          Course c method path fields held made outcome held'
  | again {held between held' : Option Ticket} {made more : Sent} {reply : Reply} {outcome : Except Failure Reply} :
      c.Attempt method path fields held made (.ok reply) between → reply.status = 401 →
        c.credentials.isLogin = true → c.Attempt method path fields none more outcome held' →
          Course c method path fields held (more ++ made) outcome held'

section

variable (c : Client) {held held' : Option Ticket} {past now : Sent}

/-- A login brings a ticket, or a failure that tells of a rejection only if the login was rejected. -/
theorem runsTo_logIn {username password : String} (hc : c.credentials = .password username password)
    {outcome : Except Failure Ticket} (run : (c.logIn username password).RunsTo held past outcome held' now) :
    held' = held ∧ ((outcome = .error .transport ∧ now = past) ∨ ∃ q x, c.login? = some q ∧ now = ⟨q, x⟩ :: past ∧
      outcome.toOption = c.ticketOf? x ∧
      ∀ f, outcome = .error f → isRejection f = true → isRejected ⟨q, x⟩ = true) := by
  have login : c.login? = c.request? .post "/access/ticket" [("username", username), ("password", password)] [] := by
    unfold login?
    rw [hc]
  unfold logIn at run
  rcases Use.runsTo_bind.mp run with ⟨reply, ticket, t, first, rest⟩ | ⟨f, rfl, first⟩
  · obtain ⟨rfl, ⟨-, failed, -⟩ | ⟨q, x, request, said, rfl⟩⟩ := c.runsTo_transmit first
    · cases failed
    · obtain ⟨rfl, rfl, rfl⟩ := c.runsTo_read.mp rest
      cases x with
      | none => cases said
      | some reply' =>
        cases said
        exact ⟨rfl, .inr ⟨q, some reply, login.trans request, rfl, rfl, fun f failed rejection => by
          simpa [isRejected] using c.reading_rejected failed rejection⟩⟩
  · obtain ⟨rfl, ⟨-, failed, rfl⟩ | ⟨q, x, request, said, rfl⟩⟩ := c.runsTo_transmit first
    · cases failed
      exact ⟨rfl, .inl ⟨rfl, rfl⟩⟩
    · cases x with
      | some reply => cases said
      | none =>
        cases said
        exact ⟨rfl, .inr ⟨q, none, login.trans request, rfl, rfl, fun f failed rejection => by
          cases failed
          cases rejection⟩⟩

theorem authorize_course {method : Method} {outcome : Except Failure (List (String × String))}
    (run : (c.authorize method).RunsTo held past outcome held' now) :
    ∃ made, now = made ++ past ∧ c.Authorized method held made outcome held' := by
  unfold authorize at run
  cases hc : c.credentials with
  | token id secret =>
    rw [hc] at run
    obtain ⟨rfl, rfl, rfl⟩ := Use.runsTo_pure.mp run
    exact ⟨[], rfl, .token hc⟩
  | password username password =>
    have user : c.credentials.isLogin = true := by rw [hc]; rfl
    rw [hc] at run
    cases held with
    | some t =>
      obtain ⟨rfl, rfl, rfl⟩ := Use.runsTo_pure.mp run
      exact ⟨[], rfl, .held user⟩
    | none =>
      rcases Use.runsTo_bind.mp (Use.runsTo_heldTicket.mp run) with ⟨t, ticket, u, first, rest⟩ | ⟨f, rfl, first⟩
      · obtain ⟨rfl, rfl, rfl⟩ := Use.runsTo_pure.mp (Use.runsTo_holdTicket.mp rest)
        obtain ⟨-, ⟨failed, -⟩ | ⟨q, x, login, rfl, issued, -⟩⟩ := c.runsTo_logIn hc first
        · cases failed
        · exact ⟨[⟨q, x⟩], rfl, .issued user login issued.symm⟩
      · obtain ⟨rfl, ⟨failed, rfl⟩ | ⟨q, x, login, rfl, -, rejected⟩⟩ := c.runsTo_logIn hc first
        · cases failed
          exact ⟨[], rfl, .unsendable user⟩
        · exact ⟨[⟨q, x⟩], rfl, .refused user login (rejected f rfl)⟩

variable {method : Method} {path : String} {fields : List (String × String)}

theorem sendAuthorized_course {outcome : Except Failure Reply}
    (run : (c.sendAuthorized method path fields).RunsTo held past outcome held' now) :
    ∃ made, now = made ++ past ∧ c.Attempt method path fields held made outcome held' := by
  rcases Use.runsTo_bind.mp run with ⟨headers, ticket, t, first, rest⟩ | ⟨f, rfl, first⟩
  · obtain ⟨made, rfl, authorized⟩ := c.authorize_course first
    obtain ⟨rfl, ⟨unfit, rfl, rfl⟩ | ⟨q, x, request, rfl, rfl⟩⟩ := c.runsTo_transmit rest
    · exact ⟨made, rfl, .unsendable authorized unfit⟩
    · exact ⟨⟨q, x⟩ :: made, rfl, .sent authorized request⟩
  · obtain ⟨made, rfl, authorized⟩ := c.authorize_course first
    exact ⟨made, rfl, .unauthorized authorized⟩

theorem exchange_course {outcome : Except Failure Reply}
    (run : (c.exchange method path fields).RunsTo held past outcome held' now) :
    ∃ made, now = made ++ past ∧ c.Course method path fields held made outcome held' := by
  rcases Use.runsTo_bind.mp run with ⟨reply, ticket, t, first, rest⟩ | ⟨f, rfl, first⟩
  · obtain ⟨made, rfl, attempt⟩ := c.sendAuthorized_course first
    split at rest
    · rename_i again
      obtain ⟨rejected, user⟩ : reply.status = 401 ∧ c.credentials.isLogin = true := by simpa using again
      obtain ⟨more, rfl, attempt'⟩ := c.sendAuthorized_course (Use.runsTo_holdTicket.mp rest)
      exact ⟨more ++ made, (List.append_assoc _ _ _).symm, .again attempt rejected user attempt'⟩
    · rename_i well
      obtain ⟨rfl, rfl, rfl⟩ := Use.runsTo_pure.mp rest
      refine ⟨made, rfl, .once attempt ?_⟩
      rintro _ ⟨⟩ rejected
      simpa [rejected] using well
  · obtain ⟨made, rfl, attempt⟩ := c.sendAuthorized_course first
    exact ⟨made, rfl, .once attempt fun _ failed => by cases failed⟩

end

/-! ## What is shown -/

/-- The ticket is shown with a request: its cookie always, and its token if the request may change something. -/
def ShowsTicket (t : Ticket) (q : Http.Request) : Prop :=
  q.headers.lookup "cookie" = some ("PVEAuthCookie=" ++ t.cookie) ∧
    q.headers.lookup "csrfpreventiontoken" = if q.method = .get then none else some t.token

/-- A request of a user shows the ticket that was issued last. -/
def ShowsLast (c : Client) (past : Sent) (q : Http.Request) : Prop :=
  isLogin q = false → c.credentials.isLogin = true → ∃ t, c.issued? past = some t ∧ ShowsTicket t q

/-- Every request showed the ticket that was issued last before it was sent. -/
def ShownLast (c : Client) : Sent → Prop
  | [] => True
  | e :: past => c.ShowsLast past e.request ∧ c.ShownLast past

/-- The ticket that is held is the one that was issued last. -/
def HoldsLast (c : Client) (past : Sent) (held : Option Ticket) : Prop :=
  ∀ t, held = some t → c.issued? past = some t

section

variable {c : Client} {method : Method} {path : String} {fields headers : List (String × String)}
  {held held' : Option Ticket} {past made : Sent} {q : Http.Request} {x : Option Reply}

theorem lookup_formHeaders (fields : List (String × String)) (name : String) (h : name ≠ "content-type") :
    (formHeaders fields).lookup name = none := by
  unfold formHeaders
  split
  · rfl
  · simp [List.lookup_cons, beq_false_of_ne h]

/-- A request that is sent with the headers of a ticket shows the ticket. -/
theorem showsTicket_of_request? {t : Ticket}
    (h : c.request? method path fields (ticketHeaders t method) = some q) : isLogin q = false ∧ ShowsTicket t q := by
  obtain ⟨rfl, headers⟩ := c.headers_of_request? h
  unfold isLogin ShowsTicket
  rw [headers]
  unfold ticketHeaders
  refine ⟨by simp, by simp, ?_⟩
  have other := lookup_formHeaders fields "csrfpreventiontoken" (by decide)
  split <;> simp [List.lookup_cons, other]

theorem issued?_login (login : c.login? = some q) :
    c.issued? (⟨q, x⟩ :: past) = (c.ticketOf? x <|> c.issued? past) := by
  rw [issued?, if_pos (c.isLogin_login? login)]

theorem issued?_other (other : isLogin q = false) : c.issued? (⟨q, x⟩ :: past) = c.issued? past := by
  rw [issued?, if_neg (by simp [other])]

theorem showsLast_login (login : c.login? = some q) : c.ShowsLast past q := by
  intro other
  rw [c.isLogin_login? login] at other
  cases other

/-- What authorizes a request are logins, which show no ticket. -/
theorem Authorized.shownLast {outcome : Except Failure (List (String × String))}
    (h : c.Authorized method held made outcome held') (shown : c.ShownLast past) : c.ShownLast (made ++ past) := by
  cases h with
  | issued _ login _ => exact ⟨showsLast_login login, shown⟩
  | refused _ login _ => exact ⟨showsLast_login login, shown⟩
  | _ => exact shown

theorem Authorized.holdsLast {outcome : Except Failure (List (String × String))}
    (h : c.Authorized method held made outcome held') (holds : c.HoldsLast past held) :
    c.HoldsLast (made ++ past) held' := by
  cases h with
  | issued _ login issued =>
    rintro t ⟨⟩
    exact (issued?_login login).trans (by rw [issued]; rfl)
  | refused => exact fun _ none => by cases none
  | _ => exact holds

/-- The headers of an authorized request are those of the ticket that was issued last. -/
theorem Authorized.headers_eq (h : c.Authorized method held made (.ok headers) held') (holds : c.HoldsLast past held)
    (user : c.credentials.isLogin = true) :
    ∃ t, c.issued? (made ++ past) = some t ∧ headers = ticketHeaders t method := by
  cases h with
  | token token =>
    rw [token] at user
    cases user
  | @held t _ => exact ⟨t, holds t rfl, rfl⟩
  | @issued q x t _ login issued => exact ⟨t, (issued?_login login).trans (by rw [issued]; rfl), rfl⟩

theorem Attempt.shownLast {outcome : Except Failure Reply}
    (h : c.Attempt method path fields held made outcome held') (holds : c.HoldsLast past held)
    (shown : c.ShownLast past) : c.ShownLast (made ++ past) := by
  cases h with
  | unauthorized authorized => exact authorized.shownLast shown
  | unsendable authorized _ => exact authorized.shownLast shown
  | sent authorized request =>
    refine ⟨fun _ user => ?_, authorized.shownLast shown⟩
    obtain ⟨t, issued, rfl⟩ := authorized.headers_eq holds user
    exact ⟨t, issued, (showsTicket_of_request? request).2⟩

/-- A request that is sent is no login. -/
theorem Authorized.not_isLogin (h : c.Authorized method held made (.ok headers) held')
    (request : c.request? method path fields headers = some q) : isLogin q = false := by
  cases h with
  | token =>
    unfold isLogin
    rw [(c.headers_of_request? request).2]
    simp
  | held => exact (showsTicket_of_request? request).1
  | issued => exact (showsTicket_of_request? request).1

theorem Attempt.holdsLast {outcome : Except Failure Reply}
    (h : c.Attempt method path fields held made outcome held') (holds : c.HoldsLast past held) :
    c.HoldsLast (made ++ past) held' := by
  cases h with
  | unauthorized authorized => exact authorized.holdsLast holds
  | unsendable authorized _ => exact authorized.holdsLast holds
  | sent authorized request =>
    intro t ht
    exact (issued?_other (authorized.not_isLogin request)).trans (authorized.holdsLast holds t ht)

theorem holdsLast_none (past : Sent) : c.HoldsLast past none :=
  fun _ none => by cases none

/-- After a call every request showed the ticket that was issued last, and that ticket is held if any is. -/
theorem Course.last {outcome : Except Failure Reply} (h : c.Course method path fields held made outcome held')
    (holds : c.HoldsLast past held) (shown : c.ShownLast past) :
    c.HoldsLast (made ++ past) held' ∧ c.ShownLast (made ++ past) := by
  cases h with
  | once attempt _ => exact ⟨attempt.holdsLast holds, attempt.shownLast holds shown⟩
  | again attempt _ _ attempt' =>
    rw [List.append_assoc]
    exact ⟨attempt'.holdsLast (holdsLast_none _),
      attempt'.shownLast (holdsLast_none _) (attempt.shownLast holds shown)⟩

end

/-! ## What is sent -/

/-- The logins. -/
def logins (made : Sent) : Sent :=
  made.filter fun e => isLogin e.request

/-- What is sent besides logins. -/
def sends (made : Sent) : Sent :=
  made.filter fun e => !isLogin e.request

section

variable {c : Client} {method : Method} {path : String} {fields headers : List (String × String)}
  {held held' : Option Ticket} {past made more : Sent} {q : Http.Request} {x : Option Reply}

@[simp] theorem logins_append : logins (more ++ made) = logins more ++ logins made :=
  List.filter_append ..

@[simp] theorem sends_append : sends (more ++ made) = sends more ++ sends made :=
  List.filter_append ..

/-- To authorize a request no more than one login is sent. -/
theorem Authorized.parts {outcome : Except Failure (List (String × String))}
    (h : c.Authorized method held made outcome held') :
    sends made = [] ∧ (logins made).length ≤ 1 ∧ ∀ e ∈ logins made, c.login? = some e.request := by
  have one {q : Http.Request} {x : Option Reply} (login : c.login? = some q) :
      sends [⟨q, x⟩] = [] ∧ (logins [⟨q, x⟩]).length ≤ 1 ∧ ∀ e ∈ logins [⟨q, x⟩], c.login? = some e.request := by
    have all : logins [⟨q, x⟩] = [⟨q, x⟩] := by simp [logins, c.isLogin_login? login]
    refine ⟨by simp [sends, c.isLogin_login? login], by rw [all]; exact Nat.le_refl 1, fun e mem => ?_⟩
    rw [all] at mem
    obtain rfl := List.mem_singleton.mp mem
    exact login
  cases h with
  | issued _ login _ => exact one login
  | refused _ login _ => exact one login
  | _ => simp [sends, logins]

/-- A request is sent no more than once, after no more than one login. -/
theorem Attempt.parts {outcome : Except Failure Reply} (h : c.Attempt method path fields held made outcome held') :
    (logins made).length ≤ 1 ∧ (∀ e ∈ logins made, c.login? = some e.request) ∧
      (sends made = [] ∨ ∃ q x headers, sends made = [⟨q, x⟩] ∧ c.request? method path fields headers = some q ∧
        outcome = replied x) ∧
      (sends made = [] → ∃ f, outcome = .error f) := by
  cases h with
  | @unauthorized _ _ f authorized =>
    obtain ⟨sends, one, logins⟩ := authorized.parts
    exact ⟨one, logins, .inl sends, fun _ => ⟨f, rfl⟩⟩
  | unsendable authorized _ =>
    obtain ⟨sends, one, logins⟩ := authorized.parts
    exact ⟨one, logins, .inl sends, fun _ => ⟨_, rfl⟩⟩
  | @sent _ made headers q x authorized request =>
    obtain ⟨none, one, all⟩ := authorized.parts
    have other := authorized.not_isLogin request
    have same : logins (⟨q, x⟩ :: made) = logins made := by simp [logins, other]
    have sent : sends (⟨q, x⟩ :: made) = [⟨q, x⟩] := by simpa [sends, other] using none
    rw [same, sent]
    exact ⟨one, all, .inr ⟨q, x, headers, rfl, request, rfl⟩, fun nothing => by cases nothing⟩

/-- The headers make no difference to what is asked for. -/
theorem request?_same {headers' : List (String × String)} {q' : Http.Request}
    (h : c.request? method path fields headers = some q) (h' : c.request? method path fields headers' = some q') :
    q'.method = q.method ∧ q'.target = q.target ∧ q'.body = q.body := by
  unfold request? at h h'
  obtain ⟨base, address, h⟩ := Option.bind_eq_some_iff.mp h
  obtain ⟨base', address', h'⟩ := Option.bind_eq_some_iff.mp h'
  obtain rfl : base = base' := Option.some.inj (address.symm.trans address')
  split at h
  · split at h'
    · cases h
      cases h'
      exact ⟨rfl, rfl, rfl⟩
    · cases h'
  · cases h

/-- Does an outcome tell of a rejection? -/
def tellsRejection : Except Failure Reply → Bool
  | .ok reply => reply.status = 401
  | .error f => isRejection f

/-- A login was rejected, or a ticket was that had been issued before in the same call. -/
def RejectedAnew (c : Client) (made : Sent) : Prop :=
  (∃ e ∈ logins made, isRejected e = true) ∨
    ∃ later e earlier t, made = later ++ e :: earlier ∧ isRejected e = true ∧ isLogin e.request = false ∧
      c.issued? earlier = some t ∧ ShowsTicket t e.request

theorem issued?_append {t : Ticket} : ∀ {earlier : Sent}, c.issued? earlier = some t →
    c.issued? (earlier ++ past) = some t
  | e :: earlier, h => by
    rw [issued?] at h
    rw [List.cons_append, issued?]
    split at h
    · rename_i login
      rw [if_pos login]
      cases issued : c.ticketOf? e.answer with
      | none =>
        rw [issued] at h
        exact issued?_append h
      | some t' =>
        rw [issued] at h
        exact h
    · rename_i other
      rw [if_neg other]
      exact issued?_append h

theorem RejectedAnew.append (h : c.RejectedAnew more) : c.RejectedAnew (more ++ made) := by
  rcases h with ⟨e, mem, rejected⟩ | ⟨later, e, earlier, t, rfl, rejected, other, issued, shows⟩
  · rw [RejectedAnew, logins_append]
    exact .inl ⟨e, List.mem_append_left _ mem, rejected⟩
  · exact .inr ⟨later, e, earlier ++ made, t, by simp, rejected, other, issued?_append issued, shows⟩

/-- If a request is not authorized because of a rejection, the login was rejected. -/
theorem Authorized.rejected {f : Failure} (h : c.Authorized method held made (.error f) held')
    (hf : isRejection f = true) : ∃ e ∈ logins made, isRejected e = true := by
  cases h with
  | @refused q x _ _ login rejected =>
    exact ⟨⟨q, x⟩, by simp [logins, c.isLogin_login? login], rejected hf⟩
  | unsendable => cases hf

/-- A user without a ticket is rejected only with a login or with a new ticket. -/
theorem Attempt.rejectedAnew {outcome : Except Failure Reply}
    (h : c.Attempt method path fields none made outcome held') (user : c.credentials.isLogin = true)
    (tells : tellsRejection outcome = true) : c.RejectedAnew made := by
  cases h with
  | unauthorized authorized => exact .inl (authorized.rejected tells)
  | unsendable => cases tells
  | @sent _ made headers q x authorized request =>
    obtain ⟨t, issued, rfl⟩ := authorized.headers_eq (holdsLast_none []) user
    rw [List.append_nil] at issued
    obtain ⟨other, shows⟩ := showsTicket_of_request? request
    have rejected : isRejected ⟨q, x⟩ = true := by
      cases x with
      | none => cases tells
      | some reply => exact tells
    exact .inr ⟨[], ⟨q, x⟩, made, t, rfl, rejected, other, issued, shows⟩

/-- A call tells of a rejection only if a login or a new ticket was rejected, or the client has a token. -/
theorem Course.rejectedAnew {outcome : Except Failure Reply} (h : c.Course method path fields held made outcome held')
    (tells : tellsRejection outcome = true) : c.credentials.isLogin = false ∨ c.RejectedAnew made := by
  cases h with
  | once attempt well =>
    cases attempt with
    | unauthorized authorized => exact .inr (.inl (authorized.rejected tells))
    | unsendable => cases tells
    | @sent _ _ _ _ x _ _ =>
      cases x with
      | none => cases tells
      | some reply => exact .inl (well reply rfl (by simpa [tellsRejection, replied] using tells))
  | again _ _ user attempt' => exact .inr (attempt'.rejectedAnew user tells).append

/-- A token is shown once, with the one request that is sent, if it can be sent. -/
theorem Course.byToken {id secret : String} (token : c.credentials = .token id secret)
    {outcome : Except Failure Reply} (h : c.Course method path fields held made outcome held') :
    match c.request? method path fields [("authorization", "PVEAPIToken=" ++ id ++ "=" ++ secret)] with
    | some q => ∃ x, made = [⟨q, x⟩]
    | none => made = [] ∧ outcome = .error .transport := by
  have noUser : c.credentials.isLogin = false := by rw [token]; rfl
  have shown {headers : List (String × String)} {held held' : Option Ticket} {made : Sent}
      (h : c.Authorized method held made (.ok headers) held') :
      made = [] ∧ headers = [("authorization", "PVEAPIToken=" ++ id ++ "=" ++ secret)] := by
    cases h with
    | token token' =>
      cases token.symm.trans token'
      exact ⟨rfl, rfl⟩
    | held user => cases user.symm.trans noUser
    | issued user => cases user.symm.trans noUser
  cases h with
  | once attempt _ =>
    cases attempt with
    | unauthorized authorized =>
      cases authorized with
      | refused user => cases user.symm.trans noUser
      | unsendable user => cases user.symm.trans noUser
    | unsendable authorized unfit =>
      obtain ⟨rfl, rfl⟩ := shown authorized
      rw [unfit]
      exact ⟨rfl, rfl⟩
    | @sent _ _ _ q x authorized request =>
      obtain ⟨rfl, rfl⟩ := shown authorized
      rw [request]
      exact ⟨x, rfl⟩
  | again _ _ user _ => cases user.symm.trans noUser

/-- A call logs in no more than twice. -/
theorem Course.logins {outcome : Except Failure Reply} (h : c.Course method path fields held made outcome held') :
    (logins made).length ≤ 2 ∧ ∀ e ∈ Client.logins made, c.login? = some e.request := by
  cases h with
  | once attempt _ =>
    obtain ⟨one, all, -⟩ := attempt.parts
    exact ⟨Nat.le_succ_of_le one, all⟩
  | again attempt _ _ attempt' =>
    obtain ⟨one, all, -⟩ := attempt.parts
    obtain ⟨one', all', -⟩ := attempt'.parts
    rw [logins_append, List.length_append]
    exact ⟨Nat.add_le_add one' one, fun e mem => (List.mem_append.mp mem).elim (all' e) (all e)⟩

/-- A call sends its request once, or twice if a user was rejected the first time. -/
theorem Course.sends {outcome : Except Failure Reply} (h : c.Course method path fields held made outcome held') :
    (∀ e ∈ sends made, ∃ headers, c.request? method path fields headers = some e.request) ∧
      ∀ e earlier, Client.sends made = e :: earlier → earlier = [] ∨
        ∃ first, earlier = [first] ∧ isRejected first = true ∧ c.credentials.isLogin = true := by
  cases h with
  | once attempt _ =>
    obtain ⟨-, -, none | ⟨q, x, headers, one, request, -⟩, -⟩ := attempt.parts
    · rw [none]
      exact ⟨fun _ mem => (List.not_mem_nil mem).elim, fun _ _ e => by cases e⟩
    · rw [one]
      refine ⟨fun e mem => ?_, fun e earlier same => ?_⟩
      · obtain rfl := List.mem_singleton.mp mem
        exact ⟨headers, request⟩
      · cases same
        exact .inl rfl
  | @again _ _ _ _ reply _ attempt rejected user attempt' =>
    obtain ⟨-, -, nothing | ⟨q, x, headers, one, request, said⟩, failed⟩ := attempt.parts
    · obtain ⟨f, failed⟩ := failed nothing
      cases failed
    have first : isRejected ⟨q, x⟩ = true := by
      cases x with
      | none => cases said
      | some reply' =>
        cases said
        simpa [isRejected] using rejected
    obtain ⟨-, -, none | ⟨q', x', headers', one', request', -⟩, -⟩ := attempt'.parts
    · rw [sends_append, none, one]
      refine ⟨fun e mem => ?_, fun e earlier same => ?_⟩
      · obtain rfl := List.mem_singleton.mp mem
        exact ⟨headers, request⟩
      · cases same
        exact .inl rfl
    · rw [sends_append, one', one]
      refine ⟨fun e mem => ?_, fun e earlier same => ?_⟩
      · rcases List.mem_cons.mp mem with rfl | mem
        · exact ⟨headers', request'⟩
        · obtain rfl := List.mem_singleton.mp mem
          exact ⟨headers, request⟩
      · cases same
        exact .inr ⟨_, rfl, first, user⟩

end

/-! ## Sessions -/

/-- Calls that were made one after the other, with what was sent for them and the ticket that is held. -/
inductive Session (c : Client) : Sent → Option Ticket → Prop
  | begun : Session c [] none
  | call {past now : Sent} {held held' : Option Ticket} (r : Request) {outcome : Except Failure r.Answer} :
      Session c past held → (c.perform r).RunsTo held past outcome held' now → Session c now held'

/-- A call within a session: what was sent for it, the latest first, and its outcome. -/
structure Orderly (c : Client) (r : Request) (made : Sent) (outcome : Except Failure r.Answer) : Prop where
  /-- All that is sent besides logins is the request. -/
  wanted : ∀ e ∈ sends made, ∃ headers, c.request? r.wire.1 r.wire.2.1 r.wire.2.2 headers = some e.request
  /-- It is sent once, or twice if a user was rejected the first time, and it is the same then. -/
  resent : ∀ e earlier, sends made = e :: earlier → earlier = [] ∨ ∃ first, earlier = [first] ∧
    isRejected first = true ∧ c.credentials.isLogin = true ∧ e.request.method = first.request.method ∧
    e.request.target = first.request.target ∧ e.request.body = first.request.body
  /-- There are two logins at most, each with the user's name and password. -/
  loggedIn : (logins made).length ≤ 2 ∧ ∀ e ∈ logins made, c.login? = some e.request
  /-- With a token one request is sent, which shows it, or nothing if the request cannot be sent. -/
  byToken : ∀ id secret, c.credentials = .token id secret →
    match c.request? r.wire.1 r.wire.2.1 r.wire.2.2 [("authorization", "PVEAPIToken=" ++ id ++ "=" ++ secret)] with
    | some q => ∃ x, made = [⟨q, x⟩]
    | none => made = [] ∧ outcome = .error .transport
  /-- A rejection is told only if a login or a new ticket was rejected, or the client has a token. -/
  rejected : ∀ f, outcome = .error f → isRejection f = true → c.credentials.isLogin = false ∨ c.RejectedAnew made

section

variable {c : Client} {r : Request} {held held' : Option Ticket} {past now : Sent}

/-- A call goes its course, and its outcome is read from the reply. -/
theorem perform_course {outcome : Except Failure r.Answer}
    (run : (c.perform r).RunsTo held past outcome held' now) :
    ∃ made o, now = made ++ past ∧ c.Course r.wire.1 r.wire.2.1 r.wire.2.2 held made o held' ∧
      outcome = o.bind (c.reading (envelope r.answerCodec r.implied)) := by
  rcases Use.runsTo_bind.mp run with ⟨reply, ticket, t, first, rest⟩ | ⟨f, rfl, first⟩
  · obtain ⟨made, rfl, course⟩ := c.exchange_course first
    obtain ⟨rfl, rfl, rfl⟩ := c.runsTo_read.mp rest
    exact ⟨made, .ok reply, rfl, course, rfl⟩
  · obtain ⟨made, rfl, course⟩ := c.exchange_course first
    exact ⟨made, .error f, rfl, course, rfl⟩

theorem perform_orderly {outcome : Except Failure r.Answer}
    (run : (c.perform r).RunsTo held past outcome held' now) :
    ∃ made, now = made ++ past ∧ c.Orderly r made outcome := by
  obtain ⟨made, o, rfl, course, rfl⟩ := perform_course run
  refine ⟨made, rfl, course.sends.1, fun e earlier same => ?_, course.logins, fun id secret token => ?_,
    fun f failed rejection => course.rejectedAnew ?_⟩
  · refine (course.sends.2 e earlier same).imp_right ?_
    rintro ⟨first, rfl, rejected, user⟩
    obtain ⟨_, request⟩ := course.sends.1 e (by simp [same])
    obtain ⟨_, request'⟩ := course.sends.1 first (by simp [same])
    exact ⟨first, rfl, rejected, user, request?_same request' request⟩
  · have shown := course.byToken token
    split at shown
    · exact shown
    · obtain ⟨rfl, rfl⟩ := shown
      exact ⟨rfl, rfl⟩
  · cases o with
    | error f' =>
      cases failed
      exact rejection
    | ok reply =>
      simpa [tellsRejection] using c.reading_rejected failed rejection

/-- In a session the ticket that is held is the one that was issued last, and every request showed that. -/
theorem Session.last (s : c.Session past held) : c.HoldsLast past held ∧ c.ShownLast past := by
  induction s with
  | begun => exact ⟨holdsLast_none [], trivial⟩
  | call r _ run ih =>
    obtain ⟨made, o, rfl, course, -⟩ := perform_course run
    exact course.last ih.1 ih.2

/-- **A session is orderly.** Whatever the server replies, every request of a user shows the ticket that was issued
last, and each call sends its request once, or once more if a user was rejected; it logs in twice at most, and tells of
a rejection only if a login or a new ticket was rejected. A token is shown with the one request of each call. -/
theorem session_orderly (s : c.Session past held) {outcome : Except Failure r.Answer}
    (run : (c.perform r).RunsTo held past outcome held' now) :
    c.ShownLast now ∧ ∃ made, now = made ++ past ∧ c.Orderly r made outcome :=
  ⟨(s.call r run).last.2, perform_orderly run⟩

end

/-! ## A ticket that expires -/

namespace Renewal

/-- A user of a cluster. -/
def client : Client :=
  ⟨"r1", "https://pve", .password "root" "secret"⟩

/-- A ticket is issued. -/
def issuing (cookie token : String) : Reply :=
  ⟨200, ((envelope Ticket.record.codec none).encode ⟨cookie, token⟩).render⟩

/-- A cluster that rejects the ticket of the first call in the second one, and then issues another. -/
def server : Site.ScriptedServer where
  script :=
    [issuing "a" "1", ⟨200, ((envelope ApiVersion.record.codec none).encode {}).render⟩, ⟨401, ""⟩, issuing "b" "2",
      ⟨200, (Json.record []).render⟩]

/-- What comes of a request to the cluster. -/
def ask (r : Request) (held : Option Ticket) (s : Site.ScriptedServer × Sent) :
    (Except Failure r.Answer × Option Ticket) × Site.ScriptedServer × Sent :=
  ((client.perform r).run.run held).run (Program.recording Site.ScriptedServer.answer) s

theorem asks {r : Request} {held : Option Ticket} {s : Site.ScriptedServer × Sent}
    {res : (Except Failure r.Answer × Option Ticket) × Site.ScriptedServer × Sent} (h : ask r held s = res) :
    (client.perform r).RunsTo held s.2 res.1.1 res.1.2 res.2.2 := by
  subst h
  exact Program.runsTo_recording _ _ s.1 s.2

/-- The cluster after its version was asked for. -/
@[irreducible] def begun : (Except Failure (Request.version).Answer × Option Ticket) × Site.ScriptedServer × Sent :=
  ask .version none (server, [])

/-- The cluster after a disk was deleted. -/
@[irreducible] def renewed : (Except Failure Unit × Option Ticket) × Site.ScriptedServer × Sent :=
  ask (.deleteDisk "z1" "data" "data:vm-9999-pvc-1") begun.1.2 begun.2

theorem begun_eq : ask .version none (server, []) = begun := by
  rw [begun]

theorem renewed_eq : ask (.deleteDisk "z1" "data" "data:vm-9999-pvc-1") begun.1.2 begun.2 = renewed := by
  rw [renewed]

end Renewal

set_option maxRecDepth 4000 in
/-- A disk is deleted with another ticket after the first one was rejected. -/
theorem session_orderly_renewed :
    Renewal.client.Session Renewal.begun.2.2 Renewal.begun.1.2 ∧ Renewal.renewed.1.1.isOk = true ∧
      (Renewal.renewed.2.2.map fun e => (e.request.method, e.request.headers.lookup "cookie")) =
        [(.delete, some "PVEAuthCookie=b"), (.post, none), (.delete, some "PVEAuthCookie=a"),
          (.get, some "PVEAuthCookie=a"), (.post, none)] ∧
      Renewal.client.ShownLast Renewal.renewed.2.2 ∧ ∃ made, Renewal.renewed.2.2 = made ++ Renewal.begun.2.2 ∧
        Renewal.client.Orderly (.deleteDisk "z1" "data" "data:vm-9999-pvc-1") made Renewal.renewed.1.1 := by
  have session : Renewal.client.Session Renewal.begun.2.2 Renewal.begun.1.2 :=
    .call .version .begun (Renewal.asks Renewal.begun_eq)
  have run := Renewal.asks Renewal.renewed_eq
  exact ⟨session, by decide +kernel, by decide +kernel, session_orderly session run⟩

end ClusterVolumes.Hypervisor.Client
