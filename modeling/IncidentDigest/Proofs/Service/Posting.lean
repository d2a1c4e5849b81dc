import IncidentDigest.Proofs.Json.RoundTrip
import IncidentDigest.Proofs.Service.Requests
import IncidentDigest.Service.Chat

/-!
# Posting once

A message that can be posted is sent once, whatever becomes of it.  The request bears the
message as a document that reads back, and the token, except that a header arrives without the
blanks at its end; a name and a password in the address come before the token.  The post
succeeds exactly if a whole reply of status 200 comes back in the end that says so
(`post_spec`).
-/

namespace IncidentDigest

open Http

/-! ## 1. Headers -/

namespace Http

/-- A text and what is left of it without the blanks at its end. -/
structure Unblanked (s t : String) : Prop where
  dropped : ∃ blanks, s.toList = t.toList ++ blanks ∧ ∀ c ∈ blanks, c = ' ' ∨ c = '\t'
  last : ∀ c, t.toList.getLast? = some c → c ≠ ' ' ∧ c ≠ '\t'

/-- Blanks, which a header does not keep around its value. -/
def isBlank (c : Char) : Bool := c = ' ' || c = '\t'

theorem unblanked_headerValue {s : String} {c : Char} (hfirst : s.toList.head? = some c)
    (hc : isBlank c = false) : Unblanked s (headerValue s) := by
  obtain ⟨rest, hs⟩ := List.head?_eq_some_iff.mp hfirst
  have hvalue : (headerValue s).toList = s.toList.rdropWhile isBlank := by
    change (String.ofList
      ((s.toList.dropWhile isBlank).reverse.dropWhile isBlank).reverse).toList = _
    rw [String.toList_ofList, hs, List.dropWhile_cons_of_neg (by simp [hc])]
    rfl
  constructor
  · refine ⟨s.toList.rtakeWhile isBlank, ?_, ?_⟩
    · rw [hvalue, List.rdropWhile_append_rtakeWhile]
    · intro d hd
      simpa [isBlank] using List.mem_rtakeWhile_imp hd
  · rw [hvalue]
    intro d hd
    obtain ⟨hne, rfl⟩ := List.mem_getLast?_eq_getLast hd
    simpa [isBlank] using List.rdropWhile_last_not isBlank s.toList hne

/-- Without a blank at its end, nothing is dropped. -/
theorem Unblanked.eq {s t : String} (h : Unblanked s t) {c : Char}
    (hlast : s.toList.getLast? = some c) (hblank : c ≠ ' ' ∧ c ≠ '\t') : t = s := by
  obtain ⟨blanks, hs, hblanks⟩ := h.dropped
  rcases List.eq_nil_or_concat' blanks with rfl | ⟨before, d, rfl⟩
  · rw [List.append_nil] at hs
    exact (String.toList_inj.mp hs).symm
  · rw [hs, ← List.append_assoc, List.getLast?_concat] at hlast
    obtain rfl := Option.some.inj hlast
    rcases hblanks d (by simp) with rfl | rfl
    · exact absurd rfl hblank.1
    · exact absurd rfl hblank.2

/-- Where a connection is made and something comes back, the request has arrived. -/
theorem Network.exchange_received {n : Network} {r : Request}
    (hsilence : n.reaction r.route ≠ .silence) (hrefusal : n.reaction r.route ≠ .refusal) :
    (n.exchange r).2.received = n.received ++ [r.arrived] := by
  unfold exchange
  dsimp only
  cases hreaction : n.reaction r.route with
  | reply reply => rfl
  | closed => rfl
  | silence => exact absurd hreaction hsilence
  | refusal => exact absurd hreaction hrefusal

end Http

/-! ## 2. Posts -/

namespace ChatClient

/-- A reply that says that the message has been taken: all of it, with status 200, and as an
answer of the service that accepts the message. -/
structure Accepts (r : Reply) : Prop where
  status : r.status = 200
  complete : r.complete = true
  answer : ∃ answer, ChatAnswer.shape.readBytes? r.body = some answer ∧ answer.accepted = true

/-- What comes of a reply to a post. -/
def outcome (c : ChatClient) (r : Reply) : Except ServiceError (Option String) :=
  if r.status ≠ 200 then .error (.status c.url r.status r.text)
  else match Client.decode ChatAnswer.shape r with
    | none => .error (.decode c.url)
    | some answer =>
      if answer.accepted then .ok answer.timestamp
      else .error (.refused (answer.error.getD "unknown_error"))

variable (c : ChatClient) {address : Url} (channel text : String)

/-- The message is read back from the body of the request, whatever characters it has. -/
theorem read?_body : Json.read? (c.request channel text address).body =
    some (.obj [("channel", .str channel), ("text", .str text)]) := by
  have hsorted : Json.SortedKeys [("channel", Json.str channel), ("text", Json.str text)] := by
    have hlt : "channel" < "text" := by decide
    exact List.pairwise_pair.mpr hlt
  have hexact : (message channel text).Exact := by
    refine .obj hsorted ?_
    intro m hm
    rcases List.mem_pair.mp hm with rfl | rfl
    · exact .str _
    · exact .str _
  have hdepth : (message channel text).depth ≤ Json.maxDepth := by
    change 1 ≤ 127
    decide
  exact Json.read?_render hexact hdepth false

/-- **A post is one request**, and what comes back for it decides. -/
theorem runIn_post (haddress : Address.ofText? c.url = some (.web address))
    (htoken : isHeaderText c.token = true) (s : Session) :
    (c.post channel text).runIn s =
      match (s.note ⟨.post, c.url⟩).deliver c.url c.timeoutSeconds
        (c.request channel text address) with
      | (.ok reply, t) => (c.outcome reply, t)
      | (.error e, t) => (.error e, t) := by
  have hsend : (Call.send .post c.url c.timeoutSeconds (isHeaderText c.token)
      (c.request channel text)).runIn s = (s.note ⟨.post, c.url⟩).deliver c.url c.timeoutSeconds
        (c.request channel text address) := by
    rw [htoken]
    change Call.send .post c.url c.timeoutSeconds true (c.request channel text) s = _
    unfold Call.send
    rw [haddress]
  unfold post
  rcases hdelivered : (s.note ⟨.post, c.url⟩).deliver c.url c.timeoutSeconds
      (c.request channel text address) with ⟨e | reply, t⟩
  · exact Call.runIn_bind_error (hsend.trans hdelivered)
  · refine (Call.runIn_bind_ok (hsend.trans hdelivered)).trans ?_
    unfold outcome
    dsimp only
    by_cases hstatus : reply.status = 200
    · rw [if_neg (not_not.mpr hstatus), if_neg (not_not.mpr hstatus)]
      cases Client.decode ChatAnswer.shape reply with
      | none => rfl
      | some answer =>
          cases haccepted : answer.accepted with
          | true => simp [haccepted]
          | false => simp [haccepted]
    · rw [if_pos hstatus, if_pos hstatus]
      rfl

/-- A reply of status 200 has its body, if all of it arrives. -/
theorem decode_of_status {r : Reply} (h : r.status = 200) :
    Client.decode ChatAnswer.shape r =
      if r.complete then ChatAnswer.shape.readBytes? r.body else none := by
  unfold Client.decode Reply.content?
  rw [if_neg (by simp [h])]
  cases r.complete
  · rfl
  · rfl

theorem outcome_ok_iff (r : Reply) : (∃ v, c.outcome r = .ok v) ↔ Accepts r := by
  unfold outcome
  by_cases hstatus : r.status = 200
  · rw [if_neg (not_not.mpr hstatus), decode_of_status hstatus]
    cases hcomplete : r.complete with
    | false => exact iff_of_false nofun fun h => by simpa [hcomplete] using h.complete
    | true =>
        rw [if_pos rfl]
        cases hread : ChatAnswer.shape.readBytes? r.body with
        | none =>
            refine iff_of_false nofun fun h => ?_
            obtain ⟨answer, hanswer, -⟩ := h.answer
            rw [hread] at hanswer
            cases hanswer
        | some answer =>
            have haccepts : Accepts r ↔ answer.accepted = true := by
              constructor
              · intro h
                obtain ⟨other, hother, haccepted⟩ := h.answer
                rw [hread] at hother
                rwa [Option.some.inj hother]
              · intro haccepted
                exact ⟨hstatus, hcomplete, answer, hread, haccepted⟩
            rw [haccepts]
            cases haccepted : answer.accepted with
            | true => simp [haccepted]
            | false => simp [haccepted]
  · rw [if_pos hstatus]
    exact iff_of_false nofun fun h => hstatus h.status

/-- **What posting does.**  It sends one request to the service, whatever comes of it, and it
succeeds exactly if a reply comes back in the end that accepts the message. -/
theorem post_spec (haddress : Address.ofText? c.url = some (.web address))
    (htoken : isHeaderText c.token = true) (s : Session) :
    ((c.post channel text).runIn s).2.sent = s.sent ++ [⟨.post, c.url⟩] ∧
      ((c.post channel text).runIn s).2.network =
        (s.network.deliver (c.request channel text address)).2 ∧
      ((∃ v, ((c.post channel text).runIn s).1 = .ok v) ↔
        ∃ r, (s.network.deliver (c.request channel text address)).1 = .ended (.reply r) ∧
          Accepts r) := by
  rw [c.runIn_post channel text haddress htoken s]
  unfold Session.deliver
  have hnote : (s.note ⟨.post, c.url⟩).network = s.network := rfl
  rw [hnote]
  rcases s.network.deliver (c.request channel text address) with ⟨delivery, network⟩
  cases delivery with
  | ended reaction =>
      cases reaction with
      | reply r => exact ⟨rfl, rfl, (c.outcome_ok_iff r).trans (by simp)⟩
      | closed => exact ⟨rfl, rfl, by simp [Session.replyOf]⟩
      | silence => exact ⟨rfl, rfl, by simp [Session.replyOf]⟩
      | refusal => exact ⟨rfl, rfl, by simp [Session.replyOf]⟩
  | stranded shown => exact ⟨rfl, rfl, by simp [Session.replyOf]⟩
  | astray shown => exact ⟨rfl, rfl, by simp [Session.replyOf]⟩

end ChatClient
end IncidentDigest
