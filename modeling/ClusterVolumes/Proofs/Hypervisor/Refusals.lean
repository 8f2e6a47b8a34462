import ClusterVolumes.Proofs.Hypervisor.Rejections
import ClusterVolumes.Proofs.Hypervisor.Session
import ClusterVolumes.Proofs.Text.Occurrence

/-!
# What a refusal is taken for

The reason that a failure gives for a refusal is a text, and the failure is taken for a rejection of parameters if it
has the words for that. They stand in the reason if the cluster did reject parameters, but also if they stand anywhere
in the body of another refusal (`refusal_isParameterVerification_iff`): no status phrase holds them, and nothing that is
put around the body makes them up.

Of the failures of a call, these refusals are the only ones that are taken for a rejection
(`perform_isParameterVerification_iff`).
-/

namespace ClusterVolumes.Hypervisor

open Http (Reply Sent)

/-! ## The words -/

/-- The words by which parameters are rejected stand somewhere in a text, in any case of letters. -/
def MentionsRejection (text : String) : Prop :=
  ∃ said : String, said.toList <:+: text.toList ∧ InAnyCase said Failure.parameterVerification

/-- The letters of the words. -/
abbrev words : List Char := Failure.parameterVerification.toList

theorem words_small : ∀ l ∈ words, ¬l.isUpper = true := by
  have all : (words.all fun l => !l.isUpper) = true := by decide +kernel
  simpa using all

theorem colon_not_mem_words : ':' ∉ words := by
  have none : words.contains ':' = false := by decide +kernel
  exact fun mem => Bool.eq_false_iff.mp none (List.contains_iff_mem.mpr mem)

theorem mentionsRejection_iff {text : String} : MentionsRejection text ↔ words <:+: text.toList.map Char.toLower := by
  rw [List.infix_map_iff]
  constructor
  · rintro ⟨said, occurs, same⟩
    exact ⟨said.toList, occurs, ((map_toLower_eq_iff words_small).mpr same).symm⟩
  · rintro ⟨cs, occurs, same⟩
    refine ⟨String.ofList cs, ?_, ?_⟩
    · rw [String.toList_ofList]
      exact occurs
    · unfold InAnyCase
      rw [String.toList_ofList]
      exact (map_toLower_eq_iff words_small).mp same.symm

/-! ## Reasons -/

/-- A letter that is written small or great is no blank. -/
theorem isBlank_of_toLower {c l : Char} (same : c.toLower = l) (unblank : Text.isBlank l = false) :
    Text.isBlank c = false := by
  by_cases great : c.isUpper = true
  · simp only [Char.isUpper, decide_eq_true_eq, UInt32.le_iff_toNat_le] at great
    have low : 65 ≤ c.toNat := great.1
    have high : c.toNat ≤ 90 := great.2
    simp only [Text.isBlank, Bool.or_eq_false_iff, Bool.and_eq_false_iff, beq_eq_false_iff_ne, decide_eq_false_iff_not]
    omega
  · rw [Char.toLower_eq_of_not_isUpper great] at same
    rw [same]
    exact unblank

/-- The blanks at the ends of a text neither make nor break the words. -/
theorem mentionsRejection_trim {text : String} : MentionsRejection (Text.trim text) ↔ MentionsRejection text := by
  refine exists_congr fun said => and_congr_left fun spelt => ?_
  have same : said.toList.map Char.toLower = words := (map_toLower_eq_iff words_small).mpr spelt
  rw [Text.trim, String.toList_ofList]
  refine Text.infix_trimChars_iff (fun c first => ?_) fun c last => ?_
  · have begins := congrArg List.head? same
    rw [List.head?_map, first] at begins
    exact isBlank_of_toLower (l := 'p') (Option.some.inj begins) (by decide)
  · have ends := congrArg List.getLast? same
    rw [List.getLast?_map, last] at ends
    exact isBlank_of_toLower (l := 'd') (Option.some.inj ends) (by decide)

/-- The words stand in no phrase of a status. -/
theorem not_words_reason (code : Nat) :
    ¬words <:+: ((Http.reason? code).getD "<unknown status code>").toList.map Char.toLower := by
  rw [← Text.occursIn_iff, Bool.not_eq_true]
  unfold Http.reason?
  split <;> rfl

/-- The words stand in no status. -/
theorem not_words_statusText (code : Nat) : ¬words <:+: (Http.statusText code).toList.map Char.toLower := by
  have begins : ∀ c ∈ (toString code ++ " ").toList.map Char.toLower, words.head? ≠ some c := by
    intro c mem first
    obtain ⟨d, held, rfl⟩ := List.mem_map.mp mem
    have small : d.toLower = 'p' := (Option.some.inj first).symm
    have letter : d = 'p' ∨ d = 'P' := (toLower_eq_iff (by decide)).mp small
    rw [String.toList_append, Text.toList_toString, List.mem_append] at held
    rcases held with digit | blank
    · have digit := Nat.isDigit_of_mem_toDigits (b := 10) (by decide) (by decide) digit
      rcases letter with rfl | rfl
      · exact absurd digit (by decide)
      · exact absurd digit (by decide)
    · rcases letter with rfl | rfl
      · exact absurd blank (by decide)
      · exact absurd blank (by decide)
  unfold Http.statusText
  rw [String.toList_append, List.map_append, Text.infix_append_left_iff begins]
  exact not_words_reason code

/-- The reply is taken for a rejection of parameters: it has status 400 and tells of rejected parameters, or the words
stand in it. -/
def CountsAsRejection (r : Reply) : Prop :=
  r.status = 400 ∧ (∃ j, Json.parse? r.body = some j ∧ ReadsRejections j) ∨ MentionsRejection r.body

/-- The failure that is told of a reply without success. -/
def refusal (region : String) (r : Reply) : Failure :=
  .clusterApi region (some r.status) (refusalReason r)

theorem refusal_isParameterVerification_iff (region : String) (r : Reply) :
    (refusal region r).isParameterVerification = true ↔ CountsAsRejection r := by
  show Text.occursIn words ((refusalReason r).toList.map Char.toLower) = true ↔ _
  rw [Text.occursIn_iff]
  unfold refusalReason CountsAsRejection
  dsimp only
  rw [← rejectedParameters_iff]
  split
  · rename_i told
    simp only [Bool.and_eq_true, decide_eq_true_eq, Bool.not_eq_true'] at told
    have begins : words <+: "Parameter verification failed. (".toList.map Char.toLower := by decide
    refine ⟨fun _ => .inl told, fun _ => ?_⟩
    rw [String.append_assoc, String.toList_append, List.map_append]
    exact (begins.trans (List.prefix_append _ _)).isInfix
  · rename_i untold
    simp only [Bool.and_eq_true, decide_eq_true_eq, Bool.not_eq_true'] at untold
    rw [or_iff_right untold, ← mentionsRejection_trim, mentionsRejection_iff, String.toList_append, String.toList_append,
      List.map_append, List.map_append, List.append_assoc]
    have begins : ∀ c ∈ [' '], words.head? ≠ some c := by
      intro c mem
      obtain rfl := List.mem_singleton.mp mem
      decide
    show words <:+: _ ++ ':' :: ([' '] ++ _) ↔ _
    rw [Text.infix_separated_iff colon_not_mem_words, or_iff_right (not_words_statusText r.status),
      Text.infix_append_left_iff begins]

/-! ## The failures of a call -/

namespace Client

/-- A reply without success came between two points of what was sent. -/
def Refused (past now : Sent) (reply : Reply) : Prop :=
  ∃ made q, now = made ++ past ∧ (⟨q, some reply⟩ : Program.Exchange Http.server) ∈ made ∧
    Http.isSuccess reply.status = false

/-- How the use of a cluster fails: a request could not be sent or got no reply, a reply could not be read, or it was
one without success. -/
inductive Fails (region : String) (past now : Sent) : Failure → Prop
  | transport : Fails region past now .transport
  | badJson : Fails region past now .badJson
  | refused {reply : Reply} (h : Refused past now reply) : Fails region past now (refusal region reply)

section

variable {α β : Type} {c : Client} {held held' : Option Ticket} {past between now : Sent}

theorem Refused.after {reply : Reply} (h : Refused between now reply) (first : past <:+ between) :
    Refused past now reply := by
  obtain ⟨made, q, rfl, mem, refused⟩ := h
  obtain ⟨earlier, rfl⟩ := first
  exact ⟨made ++ earlier, q, by rw [List.append_assoc], List.mem_append_left _ mem, refused⟩

/-- What was sent before does not matter. -/
theorem Fails.after {f : Failure} (h : Fails c.region between now f) (first : past <:+ between) :
    Fails c.region past now f := by
  cases h with
  | transport => exact .transport
  | badJson => exact .badJson
  | refused h => exact .refused (h.after first)

/-- Whatever the cluster replies, the use of it fails in one of these ways. -/
def FailsSo (c : Client) (u : Use α) : Prop :=
  ∀ held past f held' now, u.RunsTo held past (.error f) held' now → Fails c.region past now f

/-- What the use of a cluster gives is a reply to what was sent for it. -/
def GivesReply (u : Use Reply) : Prop :=
  ∀ held past reply held' now, u.RunsTo held past (.ok reply) held' now →
    ∃ made q, now = made ++ past ∧ (⟨q, some reply⟩ : Program.Exchange Http.server) ∈ made

theorem FailsSo.pure (a : α) : c.FailsSo (pure a) := by
  intro held past f held' now run
  cases (Use.runsTo_pure.mp run).1

theorem FailsSo.bind {u : Use α} {next : α → Use β} (h : c.FailsSo u) (rest : ∀ a, c.FailsSo (next a)) :
    c.FailsSo (u >>= next) := by
  intro held past f held' now run
  rcases Use.runsTo_bind.mp run with ⟨a, ticket, t, first, second⟩ | ⟨f, ⟨⟩, first⟩
  · exact (rest a _ _ _ _ _ second).after first.grows
  · exact h _ _ _ _ _ first

theorem GivesReply.bind {u : Use α} {next : α → Use Reply} (h : ∀ a, GivesReply (next a)) :
    GivesReply (u >>= next) := by
  intro held past reply held' now run
  rcases Use.runsTo_bind.mp run with ⟨a, ticket, t, first, rest⟩ | ⟨_, ⟨⟩, -⟩
  obtain ⟨made, q, rfl, mem⟩ := h a _ _ _ _ _ rest
  obtain ⟨earlier, rfl⟩ := first.grows
  exact ⟨made ++ earlier, q, by rw [List.append_assoc], List.mem_append_left _ mem⟩

/-- To read a reply fails if it is one without success, or cannot be read. -/
theorem FailsSo.read {u : Use Reply} (h : c.FailsSo u) (replies : GivesReply u) (codec : Codec α) :
    c.FailsSo (u >>= c.read codec) := by
  intro held past f held' now run
  rcases Use.runsTo_bind.mp run with ⟨reply, ticket, t, first, rest⟩ | ⟨f, ⟨⟩, first⟩
  · obtain ⟨failed, rfl, rfl⟩ := c.runsTo_read.mp rest
    obtain ⟨made, q, rfl, mem⟩ := replies _ _ _ _ _ first
    unfold reading at failed
    split at failed
    · split at failed
      · cases failed
      · cases failed
        exact .badJson
    · rename_i refused
      cases failed
      exact .refused ⟨made, q, rfl, mem, by simpa using refused⟩
  · exact h _ _ _ _ _ first

/-! ### The parts of a call -/

variable {method : Http.Method} {path : String} {fields headers : List (String × String)}

theorem transmit_failsSo : c.FailsSo (c.transmit method path fields headers) := by
  intro held past f held' now run
  obtain ⟨-, ⟨-, failed, -⟩ | ⟨q, x, -, said, -⟩⟩ := c.runsTo_transmit run
  · cases failed
    exact .transport
  · cases x with
    | none =>
      cases said
      exact .transport
    | some reply => cases said

theorem transmit_givesReply : GivesReply (c.transmit method path fields headers) := by
  intro held past reply held' now run
  obtain ⟨-, ⟨-, failed, -⟩ | ⟨q, x, -, said, rfl⟩⟩ := c.runsTo_transmit run
  · cases failed
  · cases x with
    | none => cases said
    | some reply' =>
      cases said
      exact ⟨[⟨q, some reply⟩], q, rfl, List.mem_singleton_self _⟩

theorem authorize_failsSo : c.FailsSo (c.authorize method) := by
  unfold authorize
  cases c.credentials with
  | token id secret => exact .pure _
  | password username password =>
    intro held past f held' now run
    cases held with
    | some t => cases (Use.runsTo_pure.mp run).1
    | none =>
      rcases Use.runsTo_bind.mp (Use.runsTo_heldTicket.mp run) with ⟨t, ticket, u, first, rest⟩ | ⟨_, ⟨⟩, first⟩
      · cases (Use.runsTo_pure.mp (Use.runsTo_holdTicket.mp rest)).1
      · exact transmit_failsSo.read transmit_givesReply _ _ _ _ _ _ first

theorem sendAuthorized_failsSo : c.FailsSo (c.sendAuthorized method path fields) :=
  authorize_failsSo.bind fun _ => transmit_failsSo

theorem sendAuthorized_givesReply : GivesReply (c.sendAuthorized method path fields) :=
  .bind fun _ => transmit_givesReply

theorem exchange_failsSo : c.FailsSo (c.exchange method path fields) := by
  refine sendAuthorized_failsSo.bind fun reply => ?_
  split
  · exact fun held past f held' now run =>
      sendAuthorized_failsSo _ _ _ _ _ (Use.runsTo_holdTicket.mp run)
  · exact .pure reply

/-- The reply is that to the request which was sent once more, or the first one. -/
theorem exchange_givesReply : GivesReply (c.exchange method path fields) := by
  intro held past reply held' now run
  rcases Use.runsTo_bind.mp run with ⟨first, ticket, t, sent, rest⟩ | ⟨_, ⟨⟩, -⟩
  obtain ⟨earlier, q, rfl, mem⟩ := sendAuthorized_givesReply _ _ _ _ _ sent
  split at rest
  · obtain ⟨made, q', rfl, mem'⟩ := sendAuthorized_givesReply _ _ _ _ _ (Use.runsTo_holdTicket.mp rest)
    exact ⟨made ++ earlier, q', by rw [List.append_assoc], List.mem_append_left _ mem'⟩
  · obtain ⟨⟨⟩, rfl, rfl⟩ := Use.runsTo_pure.mp rest
    exact ⟨earlier, q, rfl, mem⟩

/-- A call fails in one of these ways. -/
theorem perform_failsSo (r : Request) : c.FailsSo (c.perform r) :=
  exchange_failsSo.read exchange_givesReply _

/-- **A call is taken for one with rejected parameters** exactly if it ends with the refusal of a reply that counts as
a rejection. -/
theorem perform_isParameterVerification_iff {r : Request} {f : Failure}
    (run : (c.perform r).RunsTo held past (.error f) held' now) : f.isParameterVerification = true ↔
      ∃ reply, Refused past now reply ∧ f = refusal c.region reply ∧ CountsAsRejection reply := by
  constructor
  · intro verified
    cases perform_failsSo r _ _ _ _ _ run with
    | transport => cases verified
    | badJson => cases verified
    | @refused reply refused =>
      exact ⟨reply, refused, rfl, (refusal_isParameterVerification_iff c.region reply).mp verified⟩
  · rintro ⟨reply, -, rfl, counts⟩
    exact (refusal_isParameterVerification_iff c.region reply).mpr counts

end

end Client

end ClusterVolumes.Hypervisor
