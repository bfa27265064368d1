import Mathlib
import SupplyDrop.Library.Clip
import SupplyDrop.Transport.Process

namespace SupplyDrop.Proof.PayloadLimit
open Library Library.Program Store Host Transport Transport.Process

variable {σ : Type} {limit : Nat} {text sent : String}

/-! ## A text cut to the limit -/

theorem startingBefore_eq (cs : List Char) (cut : Nat) :
    startingBefore cs cut = Clip.reaching Char.utf8Size cs cut := by
  induction cs generalizing cut with
  | nil => rfl
  | cons c cs ih => rw [startingBefore, Clip.reaching, ih]

theorem endingBy_eq (cs : List Char) (limit : Nat) :
    endingBy cs limit = Clip.fitting Char.utf8Size cs limit := by
  induction cs generalizing limit with
  | nil => rfl
  | cons c cs ih => rw [endingBy, Clip.fitting, ih]

/-- Byte `n` of the text is where a character starts or the text ends. -/
def Boundary (text : String) (n : Nat) : Prop :=
  ∃ part : String, part.toList <+: text.toList ∧ part.utf8ByteSize = n

/-- What a `Send` holds of a text. Below three bytes there is no room for the ellipsis. -/
structure Carries (limit : Nat) (text sent : String) : Prop where
  whole : text.utf8ByteSize ≤ limit → sent = text
  cut : limit < text.utf8ByteSize → 3 ≤ limit →
    ∃ part : String, part.toList <+: text.toList ∧ sent = part ++ "…"
  bare : limit < text.utf8ByteSize → limit < 3 → sent.toList <+: text.toList
  within : text.utf8ByteSize ≤ limit ∨ limit < 3 ∨ Boundary text (limit - 3) →
    sent.utf8ByteSize ≤ limit

theorem truncate_fits (fits : text.utf8ByteSize ≤ limit) : truncateToLimit text limit = text :=
  if_pos (.inr fits)

theorem truncate_bare (limited : 0 < limit) (long : limit < text.utf8ByteSize) (low : limit < 3) :
    truncateToLimit text limit =
      String.ofList (Clip.fitting Char.utf8Size text.toList limit) := by
  unfold truncateToLimit
  rw [if_neg (by omega), if_pos (Clip.bytes_ellipsis ▸ low), endingBy_eq]

theorem truncate_cut (long : limit < text.utf8ByteSize) (room : 3 ≤ limit) :
    truncateToLimit text limit =
      String.ofList (Clip.reaching Char.utf8Size text.toList (limit - 3)) ++ "…" := by
  unfold truncateToLimit
  rw [if_neg (by omega), if_neg (not_lt.mpr (Clip.bytes_ellipsis ▸ room)), startingBefore_eq,
    Clip.bytes_ellipsis]

/-- A character that straddles the cut is kept whole, and then the text is too long. -/
theorem truncate_within_iff (long : limit < text.utf8ByteSize) (room : 3 ≤ limit) :
    (truncateToLimit text limit).utf8ByteSize ≤ limit ↔ Boundary text (limit - 3) := by
  have enough : limit - 3 ≤ Clip.total Char.utf8Size text.toList := by
    rw [← Clip.bytes_eq]
    omega
  have exact_ := Clip.total_reaching_le_iff (fun c => c.utf8Size_pos) enough
  rw [truncate_cut long room, String.utf8ByteSize_append, Clip.bytes_ellipsis, Clip.bytes_ofList]
  constructor
  · intro within
    obtain ⟨part, starts, bytes⟩ := exact_.mp (by omega)
    exact ⟨String.ofList part, by rwa [String.toList_ofList], by rw [Clip.bytes_ofList, bytes]⟩
  · rintro ⟨part, starts, bytes⟩
    have := exact_.mpr ⟨part.toList, starts, by rw [← Clip.bytes_eq, bytes]⟩
    omega

theorem truncate_carries (limited : 0 < limit) (text : String) :
    Carries limit text (truncateToLimit text limit) where
  whole fits := truncate_fits fits
  cut long room := by
    refine ⟨_, ?_, truncate_cut long room⟩
    rw [String.toList_ofList]
    exact Clip.reaching_prefix text.toList (limit - 3)
  bare long low := by
    rw [truncate_bare limited long low, String.toList_ofList]
    exact Clip.fitting_prefix text.toList limit
  within held := by
    by_cases fits : text.utf8ByteSize ≤ limit
    · rwa [truncate_fits fits]
    · have long := not_le.mp fits
      by_cases low : limit < 3
      · rw [truncate_bare limited long low, Clip.bytes_ofList]
        exact Clip.total_fitting_le text.toList limit
      · have boundary := (held.resolve_left fits).resolve_left low
        exact (truncate_within_iff long (not_lt.mp low)).mpr boundary

/-! ## What is written to the plugin -/

/-- The texts a reply is sent in. -/
def textsOf : Response → List String
  | .multiText parts => parts
  | response => response.render.toList

def written (s : Transport.Station Plugin σ) (msgs : List HostMsg) : Transport.Station Plugin σ :=
  { s with sessions := { s.sessions with stdin := s.sessions.stdin ++ msgs } }

theorem written_nil (s : Transport.Station Plugin σ) : written s [] = s := by
  unfold written
  rw [List.append_nil]

theorem written_written (s : Transport.Station Plugin σ) (msgs more : List HostMsg) :
    written (written s msgs) more = written s (msgs ++ more) := by
  unfold written
  dsimp only
  rw [List.append_assoc]

/-- The messages of `msgs` are written, and nothing else is done. -/
def Writes (m : ProcessM σ Unit) (s : Transport.Station Plugin σ) (msgs : List HostMsg) : Prop :=
  m s = (.ok (), written s msgs)

def sends (id : String) (limit : Nat) (response : Response) : List HostMsg :=
  (textsOf response).map fun text =>
    .send id (truncateToLimit text limit) (hidesNextInput response)

theorem sendText_writes (id text : String) (hideInput : Bool) (s : Transport.Station Plugin σ) :
    Writes (sendText id text hideInput) s
      [.send id (truncateToLimit text s.sessions.payloadLimit) hideInput] := rfl

theorem forM_writes (id : String) (hideInput : Bool) (parts : List String)
    (s : Transport.Station Plugin σ) :
    Writes (parts.forM fun part => sendText id part hideInput) s
      (parts.map fun part => .send id (truncateToLimit part s.sessions.payloadLimit) hideInput) := by
  induction parts generalizing s with
  | nil =>
      unfold Writes
      rw [List.map_nil, written_nil]
      rfl
  | cons part parts ih =>
      show (sendText id part hideInput >>= fun _ =>
        parts.forM fun part => sendText id part hideInput) s = _
      rw [bind_ok (sendText_writes id part hideInput s), ih, written_written]
      rfl

theorem respond_writes (id : String) (response : Response) (s : Transport.Station Plugin σ) :
    Writes (respond id response) s (sends id s.sessions.payloadLimit response) := by
  cases response with
  | multiText parts => exact forM_writes id false parts s
  | text t => exact sendText_writes id _ false s
  | prompt t hideInput => exact sendText_writes id t hideInput s
  | loggedIn user => exact sendText_writes id _ false s
  | loggedOut => exact sendText_writes id _ false s
  | error e => exact sendText_writes id _ false s

/-- The texts the plugin is to be sent for one of its messages. -/
def repliesTo (host : HostApi σ) (s : Transport.Station Plugin σ) : Option PluginMsg → List String
  | some (.recv id line) =>
      match s.sessions.sessions.byId.get? id with
      | none => []
      | some e => textsOf (answered
          (host.processCommand e.sessionId (.parse line e.awaitingReply) s.host).1)
  | _ => []

/-- Between the two, `texts` were sent, each within the payload limit. -/
def Sent (s s' : Transport.Station Plugin σ) (texts : List String) : Prop :=
  ∃ msgs, s'.sessions.stdin = s.sessions.stdin ++ msgs ∧ ∀ id sent hideInput,
    .send id sent hideInput ∈ msgs → ∃ text ∈ texts, Carries s.sessions.payloadLimit text sent

theorem sends_sent (limited : 0 < limit) (response : Response) (id : String) :
    ∀ i sent hideInput, .send i sent hideInput ∈ sends id limit response →
      ∃ text ∈ textsOf response, Carries limit text sent := by
  intro i sent hideInput mem
  obtain ⟨text, here, eq⟩ := List.mem_map.mp mem
  cases eq
  exact ⟨text, here, truncate_carries limited text⟩

theorem sent_of_stdin {s s' : Transport.Station Plugin σ} (texts : List String)
    (same : s'.sessions.stdin = s.sessions.stdin) : Sent s s' texts :=
  ⟨[], by rw [same, List.append_nil], nofun⟩

theorem handleRecv_sent (host : HostApi σ) (id line : String) (s : Transport.Station Plugin σ)
    (limited : 0 < s.sessions.payloadLimit) :
    Sent s (handleRecv host id line s).2 (repliesTo host s (some (.recv id line))) := by
  unfold handleRecv repliesTo
  rw [bind_apply, looking, gets_apply]
  dsimp only
  cases s.sessions.sessions.byId.get? id with
  | none => exact sent_of_stdin _ rfl
  | some e =>
      dsimp only
      rw [bind_apply, ask, attempt_apply, zoom_apply]
      dsimp only
      generalize host.processCommand e.sessionId (.parse line e.awaitingReply) s.host = ran
      rw [bind_apply, onSessions, modify_apply]
      dsimp only
      rw [respond_writes]
      exact ⟨_, rfl, sends_sent limited (answered ran.1) id⟩

theorem handleOpen_sent (host : HostApi σ) (transportName id : String)
    (s : Transport.Station Plugin σ) : Sent s (handleOpen host transportName id s).2 [] := by
  unfold handleOpen
  rw [bind_apply, ask, attempt_apply, zoom_apply]
  dsimp only
  cases (host.createSession transportName s.host).1 with
  | ok session => exact sent_of_stdin _ rfl
  | error e =>
      refine ⟨[.kick id], rfl, fun i sent hideInput mem => ?_⟩
      cases List.mem_singleton.mp mem

theorem handleClose_sent (host : HostApi σ) (id : String) (s : Transport.Station Plugin σ) :
    Sent s (handleClose host id s).2 [] := by
  unfold handleClose
  rw [bind_apply, looking, gets_apply]
  dsimp only
  cases s.sessions.sessions.byId.get? id with
  | none => exact sent_of_stdin _ rfl
  | some e => exact sent_of_stdin _ rfl

theorem handlePluginMsg_sent (host : HostApi σ) (transportName : String) (msg : Option PluginMsg)
    (s : Transport.Station Plugin σ) (limited : 0 < s.sessions.payloadLimit) :
    Sent s (handlePluginMsg host transportName msg s).2 (repliesTo host s msg) := by
  cases msg with
  | none => exact sent_of_stdin _ rfl
  | some msg =>
      cases msg with
      | ready payloadLimit version => exact sent_of_stdin _ rfl
      | open_ id => exact handleOpen_sent host transportName id s
      | recv id line => exact handleRecv_sent host id line s limited
      | close id => exact handleClose_sent host id s

theorem notify_sent (session : SessionId) (payload : Notification) (s : Transport.Station Plugin σ)
    (fits : (renderNotification payload).utf8ByteSize ≤ s.sessions.payloadLimit) :
    Sent s (notify session payload s).2 [renderNotification payload] := by
  unfold notify
  rw [bind_apply, looking, gets_apply]
  dsimp only
  cases s.sessions.sessions.bySession.get? session with
  | none => exact sent_of_stdin _ rfl
  | some entry =>
      refine ⟨[.send entry.2 (renderNotification payload) false], rfl, ?_⟩
      intro i sent hideInput mem
      cases List.mem_singleton.mp mem
      exact ⟨_, List.mem_singleton_self _, fun _ => rfl, fun long => absurd fits (not_le.mpr long),
        fun long => absurd fits (not_le.mpr long), fun _ => fits⟩

/-! ## The payload limit -/

/-- A host that says the same to everything. -/
def greeter : HostApi Unit where
  createSession _ := pure 1
  endSession _ := pure ()
  processCommand _ _ := pure (.text "hello world")
  meshNodeRestore _ _ _ := pure none
  meshNodeBind _ _ := pure ()
  meshNodeUnbind _ := pure ()
  authenticated _ _ := false

def listening (limit : Nat) : Transport.Station Plugin Unit :=
  ⟨0, { Plugin.new.onSessions (·.opens "a" 1) with payloadLimit := limit }, ()⟩

end SupplyDrop.Proof.PayloadLimit
