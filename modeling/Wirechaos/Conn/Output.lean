/-
  Wirechaos.Conn.Output — the client's side of the stream: what may be written after
  what, and what of it reaches the wire.

  `Next` is the protocol, one message after another, up to the ReadyForQuery or an
  ErrorResponse. `Speaks` is a triple about a part of a run: from the stages `pre` its
  messages lead on, and what it adds to the output is their bytes (`Delivered`). Only
  an operation that ended cleanly has handed over all of them (`Flushed`), and only then
  is anything written behind it. A message is never cut but one longer than the buffer
  of the writer.
-/

import Wirechaos.Conn.AuthProofs
import Wirechaos.Lib.Machine
import Wirechaos.Wire.WriteProofs

namespace Wirechaos

open Text Async Proc Machine

/-! ## The protocol -/

/-- What the client was told last. -/
inductive Stage where
  | hello (ssl gss : Bool)
  | challenged
  | continued
  | signed
  | admitted
  | keyed
  | over
  deriving DecidableEq, Repr

namespace Session

/-- One message: at most one answer to each encryption request, the four messages of the
    authentication, the backend's settings and notices, the key, the ReadyForQuery. An
    ErrorResponse ends everything. -/
inductive Next : Stage → Event → Stage → Prop
  | ssl {gss : Bool} {answer : UInt8} : answer = byte 'S' ∨ answer = byte 'N' →
      Next (.hello false gss) (.reply answer) (.hello true gss)
  | gss {ssl : Bool} : Next (.hello ssl false) (.reply (byte 'N')) (.hello ssl true)
  | challenge {ssl gss : Bool} (data : Bytes) : Next (.hello ssl gss) (authEvent authSasl data) .challenged
  | continuation (data : Bytes) : Next .challenged (authEvent authSaslContinue data) .continued
  | signature (data : Bytes) : Next .continued (authEvent authSaslFinal data) .signed
  | authenticationOk : Next .signed (authEvent authSaslOk []) .admitted
  | notification {tag : UInt8} (body : Bytes) : tag = byte 'S' ∨ tag = byte 'N' →
      Next .admitted (.message tag body) .admitted
  | backendKey (body : Bytes) : Next .admitted (.message (byte 'K') body) .keyed
  | ready (status : UInt8) : Next .keyed (.message (byte 'Z') [status]) .over
  | error {stage : Stage} (body : Bytes) : stage ≠ .over → Next stage (.message (byte 'E') body) .over

theorem completes (stage : Stage) : ∃ rest, Path Next stage rest .over := by
  by_cases h : stage = .over
  · subst h
    exact ⟨[], .nil _⟩
  · exact ⟨[.message (byte 'E') []], .one (.error [] h)⟩

/-! ## Bytes -/

def isOutput : Event → Bool
  | .message _ _ => true
  | .reply _ => true
  | _ => false

def outputBytes : Event → Bytes
  | .message tag body => frame tag body
  | .reply answer => [answer]
  | _ => []

/-- What the client is sent, message by message. -/
def outputs (es : List Event) : List Event := es.filter isOutput

def rendered (es : List Event) : Bytes := es.flatMap outputBytes

@[simp] theorem outputs_nil : outputs [] = [] := rfl

@[simp] theorem rendered_nil : rendered [] = [] := rfl

@[simp] theorem outputs_append (es es' : List Event) : outputs (es ++ es') = outputs es ++ outputs es' :=
  List.filter_append es es'

@[simp] theorem rendered_append (es es' : List Event) : rendered (es ++ es') = rendered es ++ rendered es' :=
  List.flatMap_append

/-- The other events have no bytes. -/
theorem rendered_of_outputs {es : List Event} (h : outputs es = []) : rendered es = [] := by
  induction es with
  | nil => rfl
  | cons e es ih =>
    cases e with
    | message tag body => cases h
    | reply answer => cases h
    | packet body => exact ih h
    | startup reader writer => exact ih h
    | lookup user answer => exact ih h
    | sasl body => exact ih h
    | connect config => exact ih h

theorem rendered_outputs (es : List Event) : rendered (outputs es) = rendered es := by
  induction es with
  | nil => rfl
  | cons e es ih =>
    cases e with
    | message tag body => exact congrArg (frame tag body ++ ·) ih
    | reply answer => exact congrArg ([answer] ++ ·) ih
    | packet body => exact ih
    | startup reader writer => exact ih
    | lookup user answer => exact ih
    | sasl body => exact ih
    | connect config => exact ih

variable {V : Type} {ε ε' α β : Type}

/-- The messages begun, and how much of them is in the output. Only one that is longer
    than the writer's buffer can be there in part. -/
def Delivered (s : Session V) (es : List Event) (s' : Session V) : Prop :=
  ∃ bs, s'.conn.wire.output = s.conn.wire.output ++ bs ∧ bs <+: rendered es ∧
    (bs = rendered es ∨ ∃ pre tag body, es = pre ++ [.message tag body] ∧ writerCapacity < body.length + 5)

/-- All of them is in the output, and nothing waits in the buffer. -/
structure Flushed (s : Session V) (es : List Event) (s' : Session V) : Prop where
  buf : s'.conn.wire.writer.buf = []
  output : s'.conn.wire.output = s.conn.wire.output ++ rendered es

theorem Flushed.delivered {s s' : Session V} {es : List Event} (h : Flushed s es s') : Delivered s es s' :=
  ⟨rendered es, h.output, List.prefix_refl _, Or.inl rfl⟩

theorem Flushed.append {s s' s'' : Session V} {es es' : List Event} (h : Flushed s es s') (h' : Flushed s' es' s'') :
    Flushed s (es ++ es') s'' :=
  ⟨h'.buf, by rw [h'.output, h.output, rendered_append, List.append_assoc]⟩

theorem Flushed.deliver {s s' s'' : Session V} {es es' : List Event} (h : Flushed s es s') (h' : Delivered s' es' s'') :
    Delivered s (es ++ es') s'' := by
  obtain ⟨bs, hout, hprefix, hwhole⟩ := h'
  refine ⟨rendered es ++ bs, by rw [hout, h.output, List.append_assoc], ?_, ?_⟩
  · rw [rendered_append]
    exact (List.prefix_append_right_inj _).mpr hprefix
  · rcases hwhole with rfl | ⟨pre, tag, body, rfl, hlong⟩
    · exact Or.inl (rendered_append _ _).symm
    · exact Or.inr ⟨es ++ pre, tag, body, (List.append_assoc _ _ _).symm, hlong⟩

/-! ## Writing a message -/

@[simp] theorem onWire_wire (s : Session V) (w : Wire) : (onWire s w).conn.wire = w := rfl

theorem flush_output (s : Session V) : (io Wire.flush s).2.conn.wire.output = s.conn.wire.output := by
  rw [io_state]
  exact Wire.flush_output _

/-- Every run adds a prefix of the data to the output, and one that returns all of it. -/
def Adds (data : Bytes) (x : Proc (Session V) ε Unit) : Prop :=
  ∀ s, ∃ bs, bs <+: data ∧ (x s).2.conn.wire.output = s.conn.wire.output ++ bs ∧ ∀ u, (x s).1 = .ok u → bs = data

theorem adds_bind {data data' : Bytes} {x y : Proc (Session V) ε Unit} (hx : Adds data x) (hy : Adds data' y) :
    Adds (data ++ data') (x >>= fun _ => y) := by
  intro s
  obtain ⟨bs, hprefix, hout, hok⟩ := hx s
  have hshort : bs <+: data ++ data' := hprefix.trans (List.prefix_append data data')
  rcases h : x s with ⟨u | e | n, s₁⟩ <;> rw [h] at hout hok
  · obtain rfl := hok u rfl
    obtain ⟨bs', hprefix', hout', hok'⟩ := hy s₁
    rw [bind_of_ok h]
    refine ⟨bs ++ bs', (List.prefix_append_right_inj bs).mpr hprefix', ?_, fun u hu => by rw [hok' u hu]⟩
    rw [hout', hout, List.append_assoc]
  · rw [bind_of_err h]
    exact ⟨bs, hshort, hout, by simp⟩
  · rw [bind_of_dropped h]
    exact ⟨bs, hshort, hout, by simp⟩

theorem adds_writeAll (data : Bytes) : Adds data (io (V := V) (Wire.writeAll data)) := by
  intro s
  obtain ⟨bs, hprefix, hout⟩ := Wire.writeAll_output data s.conn.wire
  refine ⟨bs, hprefix, by rw [io_state]; exact hout, fun u hu => ?_⟩
  obtain ⟨w, hw, -⟩ := io_eq_ok.mp (eq_of_fst hu)
  rw [hw, (Wire.writeAll_ok hw).1] at hout
  exact (List.append_cancel_left hout).symm

theorem adds_flush : Adds [] (io (V := V) Wire.flush) := by
  intro s
  refine ⟨[], List.prefix_refl _, ?_, fun _ _ => rfl⟩
  rw [flush_output, List.append_nil]

theorem adds_writeFrame (tag : UInt8) (body : Bytes) : Adds (frame tag body) (writeFrame (V := V) tag body) := by
  have hdata : frame tag body = [tag] ++ (beBytes (UInt32.ofNat (body.length + 4)) ++ (body ++ [])) := by
    rw [List.append_nil]
    rfl
  rw [hdata]
  exact adds_bind (adds_writeAll _) (adds_bind (adds_writeAll _) (adds_bind (adds_writeAll _) adds_flush))

/-- A message that was written is in the output, and none of it waits. -/
theorem writeFrame_ok {tag : UInt8} {body : Bytes} {s s' : Session V} {u : Unit} (h : writeFrame tag body s = (.ok u, s')) :
    s'.conn.wire.writer.buf = [] ∧ s'.conn.wire.output = s.conn.wire.output ++ frame tag body := by
  obtain ⟨bs, -, hout, hok⟩ := adds_writeFrame (V := V) tag body s
  rw [h] at hout hok
  obtain rfl := hok u rfl
  refine ⟨?_, hout⟩
  obtain ⟨_, s₁, -, h₁⟩ := bind_ok.mp h
  obtain ⟨_, s₂, -, h₂⟩ := bind_ok.mp h₁
  obtain ⟨_, s₃, -, h₃⟩ := bind_ok.mp h₂
  obtain ⟨w, hw, rfl⟩ := io_eq_ok.mp h₃
  exact (Wire.flush_ok hw).2.1

/-- The tag and the length of a message fit into the empty buffer. -/
theorem writeHeader (tag : UInt8) (length : UInt32) {s : Session V} (hbuf : s.conn.wire.writer.buf = []) :
    ∃ t : Session V, t.conn.wire.output = s.conn.wire.output ++ tag :: beBytes length ∧ t.conn.wire.writer.buf.length = 5 ∧
      ∀ rest : Proc (Session V) InternalError Unit,
        (do io (Wire.writeAll [tag]); io (Wire.writeAll (beBytes length)); rest) s = rest t := by
  have hcap : writerCapacity = 8192 := rfl
  have hlen : (beBytes length).length = 4 := rfl
  have htag := Wire.writeAll_fits (w := s.conn.wire) (show _ + [tag].length ≤ _ by simp [hbuf, hcap]) (by simp [hcap])
  have hlength := Wire.writeAll_fits (w := s.conn.wire.buffered [tag])
    (show _ + (beBytes length).length ≤ _ by simp [hbuf, hcap, hlen]) (by simp [hcap, hlen])
  refine ⟨onWire (onWire s (s.conn.wire.buffered [tag])) ((s.conn.wire.buffered [tag]).buffered (beBytes length)), ?_, ?_,
    fun rest => ?_⟩
  · simp
  · simp [hbuf, hlen]
  · rw [bind_of_ok (io_eq_ok.mpr ⟨_, htag, rfl⟩), bind_of_ok (io_eq_ok.mpr ⟨_, hlength, rfl⟩)]

/-- What a write of a message adds to an empty buffer, in whatever way it ends. -/
theorem writeFrame_output (tag : UInt8) (body : Bytes) {s : Session V} (hbuf : s.conn.wire.writer.buf = []) :
    ∃ bs, (writeFrame tag body s).2.conn.wire.output = s.conn.wire.output ++ bs ∧ bs <+: frame tag body ∧
      (bs = frame tag body ∨ writerCapacity < body.length + 5) := by
  obtain ⟨t, hout, hlen, hrun⟩ := writeHeader tag (UInt32.ofNat (body.length + 4)) hbuf
  unfold writeFrame
  rw [hrun]
  by_cases hfits : body.length + 5 ≤ writerCapacity
  · have hbody : Wire.writeAll body t.conn.wire = (.ok (), t.conn.wire.buffered body) :=
      Wire.writeAll_fits (by omega) (by omega)
    rw [bind_of_ok (io_eq_ok.mpr ⟨_, hbody, rfl⟩), flush_output]
    refine ⟨frame tag body, ?_, List.prefix_refl _, Or.inl rfl⟩
    rw [onWire_wire, Wire.output_buffered, hout, List.append_assoc, frame]
  · have hlong : writerCapacity < body.length + 5 := by omega
    refine bind_state (Q := fun s' : Session V => ∃ bs, s'.conn.wire.output = s.conn.wire.output ++ bs ∧
      bs <+: frame tag body ∧ (bs = frame tag body ∨ writerCapacity < body.length + 5)) (fun _ => ?_) fun _ s' h => ?_
    · obtain ⟨bs, hprefix, hbs⟩ := Wire.writeAll_output body t.conn.wire
      rw [io_state, onWire_wire]
      refine ⟨tag :: beBytes (UInt32.ofNat (body.length + 4)) ++ bs, ?_, ?_, Or.inr hlong⟩
      · rw [hbs, hout, List.append_assoc]
      · exact (List.prefix_append_right_inj _).mpr hprefix
    · obtain ⟨w, hw, rfl⟩ := io_eq_ok.mp h
      rw [flush_output, onWire_wire, (Wire.writeAll_ok hw).1, hout, List.append_assoc]
      exact ⟨frame tag body, rfl, List.prefix_refl _, Or.inr hlong⟩

/-! ## Operations that write nothing -/

/-- The client is sent nothing, and the flags of the encryption requests are the same. -/
structure Hush (s s' : Session V) : Prop where
  sent : s'.conn.wire.sent = s.conn.wire.sent
  buf : s.conn.wire.writer.buf = [] → s'.conn.wire.writer.buf = []
  sslDone : s'.conn.sslDone = s.conn.sslDone
  gssDone : s'.conn.gssDone = s.conn.gssDone
  log : ∃ es, s'.log = s.log ++ es ∧ outputs es = []

instance : IsPreorder (Session V) Hush where
  refl _ := ⟨rfl, id, rfl, rfl, [], by simp, rfl⟩
  trans _ _ _ h h' := by
    obtain ⟨es, hl, hes⟩ := h.log
    obtain ⟨es', hl', hes'⟩ := h'.log
    exact ⟨h'.sent.trans h.sent, fun hb => h'.buf (h.buf hb), h'.sslDone.trans h.sslDone, h'.gssDone.trans h.gssDone,
      es ++ es', by rw [hl', hl, List.append_assoc], by rw [outputs_append, hes, hes']; rfl⟩

/-- An update of neither the connection, the flags nor the log. -/
theorem hush_update {f : Session V → Session V} (hwire : ∀ s, (f s).conn.wire = s.conn.wire)
    (hssl : ∀ s, (f s).conn.sslDone = s.conn.sslDone) (hgss : ∀ s, (f s).conn.gssDone = s.conn.gssDone)
    (hlog : ∀ s, (f s).log = s.log) : Keeps Hush (modify f : Proc (Session V) ε Unit) :=
  keeps_modify fun s => ⟨by rw [hwire], by rw [hwire]; exact id, hssl s, hgss s, [], by rw [hlog, List.append_nil], rfl⟩

theorem hush_interfere : Keeps Hush (modify interfere : Proc (Session V) ε Unit) :=
  hush_update (fun _ => rfl) (fun _ => rfl) (fun _ => rfl) fun _ => rfl

theorem hush_emit {e : Event} (he : isOutput e = false) : Keeps Hush (emit e : Proc (Session V) ε Unit) :=
  keeps_modify fun _ => ⟨rfl, id, rfl, rfl, [e], rfl, by simp [outputs, he]⟩

theorem hush_suspend : Keeps Hush (suspend : Proc (Session V) ε Unit) :=
  keeps_bind keeps_get fun _ => keeps_bind hush_interfere fun _ => keeps_ite (keeps_drop _) (keeps_pure _)

theorem hush_io {x : Proc Wire IoError α} (hx : Keeps Wire.Mute x) : Keeps Hush (io (V := V) x) := by
  intro s
  have hmute := hx s.conn.wire
  rw [io_state]
  refine ⟨hmute.sent, ?_, rfl, rfl, [], by rw [List.append_nil]; rfl, rfl⟩
  intro hbuf
  rw [onWire_wire, hmute.writer, hbuf]

theorem hush_readMessageLength : Keeps Hush (readMessageLength (V := V)) :=
  keeps_bind (keeps_mapErr (hush_io (Wire.mute_readExact _))) fun _ => keeps_lift _

theorem hush_readMessageBody (n : Nat) : Keeps Hush (readMessageBody (V := V) n) := by
  refine keeps_bind keeps_get fun s => keeps_ite (keeps_pure _) (keeps_ite (keeps_throw _) ?_)
  exact keeps_bind (keeps_mapErr (hush_io (Wire.mute_readExact _))) fun _ => keeps_pure _

theorem hush_readStartupPacket : Keeps Hush (readStartupPacket (V := V)) := by
  refine keeps_bind hush_readMessageLength fun n => keeps_bind keeps_get fun s => ?_
  exact keeps_bind (keeps_lift _) fun _ => keeps_bind (hush_readMessageBody _) fun _ => keeps_lift _

/-! ## Triples -/

/-- What a run says from a stage on. Nothing of it is missing when the run returned, nor
    after a `clean` error, for which there is still an ErrorResponse to be written. -/
def Says (clean : ε → Prop) (post : α → Session V → Stage → Prop) (stage : Stage) (s : Session V) (o : Outcome ε α)
    (es : List Event) (s' : Session V) : Prop :=
  ∃ stage', Path Next stage (outputs es) stage' ∧ Delivered s es s' ∧
    (∀ a, o = .ok a → Flushed s es s' ∧ post a s' stage') ∧
    ∀ e, o = .err e → clean e → Flushed s es s' ∧ stage' ≠ .over

/-- From the stages `pre` the run writes messages that the protocol allows, to a stage
    that fits its outcome. -/
def Speaks (clean : ε → Prop) (pre : Session V → Stage → Prop) (x : Proc (Session V) ε α)
    (post : α → Session V → Stage → Prop) : Prop :=
  Emits log x fun s o es s' => ∀ stage, pre s stage → s.conn.wire.writer.buf = [] → Says clean post stage s o es s'

/-- No error is clean. -/
def Never (_ : ε) : Prop := False

variable {clean : ε → Prop} {clean' : ε' → Prop} {pre pre' : Session V → Stage → Prop}
  {post : α → Session V → Stage → Prop} {post' : β → Session V → Stage → Prop}

/-- What is said behind what was said whole. -/
theorem Says.after {stage stage₁ : Stage} {s s₁ s₂ : Session V} {o : Outcome ε α} {e₁ e₂ : List Event}
    (hpath : Path Next stage (outputs e₁) stage₁) (hflushed : Flushed s e₁ s₁) (h : Says clean post stage₁ s₁ o e₂ s₂) :
    Says clean post stage s o (e₁ ++ e₂) s₂ := by
  obtain ⟨stage₂, hpath₂, hdelivered, hok, herr⟩ := h
  refine ⟨stage₂, by rw [outputs_append]; exact hpath.append hpath₂, hflushed.deliver hdelivered, ?_, ?_⟩
  · intro a ha
    obtain ⟨hflushed₂, hp⟩ := hok a ha
    exact ⟨hflushed.append hflushed₂, hp⟩
  · intro e he hclean
    obtain ⟨hflushed₂, hne⟩ := herr e he hclean
    exact ⟨hflushed.append hflushed₂, hne⟩

/-- A run that neither returned nor ended cleanly is not followed by anything. -/
theorem Says.stop {stage : Stage} {s s' : Session V} {o : Outcome ε α} {o' : Outcome ε' β} {es : List Event}
    (h : Says clean post stage s o es s') (hok : ∀ b, o' ≠ .ok b) (herr : ∀ e, o' = .err e → ¬ clean' e) :
    Says clean' post' stage s o' es s' := by
  obtain ⟨stage', hpath, hdelivered, -, -⟩ := h
  exact ⟨stage', hpath, hdelivered, fun b hb => absurd hb (hok b), fun e he hc => absurd hc (herr e he)⟩

/-- The end of a connection: nothing follows. -/
theorem Says.last {stage : Stage} {s s' : Session V} {o : Outcome ε α} {es : List Event}
    (h : Says clean post stage s o es s') : Says Never (fun _ _ _ => True) stage s o es s' := by
  obtain ⟨stage', hpath, hdelivered, hok, -⟩ := h
  exact ⟨stage', hpath, hdelivered, fun a ha => ⟨(hok a ha).1, trivial⟩, fun e _ h => absurd h id⟩

theorem Speaks.mono {x : Proc (Session V) ε α} {post₁ : α → Session V → Stage → Prop} (h : Speaks clean pre x post)
    (hpre : ∀ s stage, pre' s stage → pre s stage) (hpost : ∀ a s stage, post a s stage → post₁ a s stage) :
    Speaks clean pre' x post₁ := by
  refine Emits.mono h fun s o es s' h stage hstage hbuf => ?_
  obtain ⟨stage', hpath, hdelivered, hok, herr⟩ := h stage (hpre s stage hstage) hbuf
  refine ⟨stage', hpath, hdelivered, fun a ha => ?_, herr⟩
  obtain ⟨hflushed, hp⟩ := hok a ha
  exact ⟨hflushed, hpost a s' stage' hp⟩

theorem Speaks.returns {x : Proc (Session V) ε α} {P : α → Prop} (h : Speaks clean pre x post) (hx : Returns P x) :
    Speaks clean pre x fun a s stage => post a s stage ∧ P a := by
  refine (Emits.and_ok h fun s a s' => hx s a s').mono fun s o es s' h stage hstage hbuf => ?_
  obtain ⟨stage', hpath, hdelivered, hok, herr⟩ := h.1 stage hstage hbuf
  refine ⟨stage', hpath, hdelivered, fun a ha => ?_, herr⟩
  obtain ⟨hflushed, hpost⟩ := hok a ha
  exact ⟨hflushed, hpost, h.2 a ha⟩

theorem speaks_bind {x : Proc (Session V) ε α} {f : α → Proc (Session V) ε β} {Q : α → Session V → Stage → Prop}
    (hx : Speaks clean pre x Q) (hf : ∀ a, Speaks clean (Q a) (f a) post') : Speaks clean pre (x >>= f) post' := by
  refine (emits_bind hx hf).mono fun s o es s'' h stage hstage hbuf => ?_
  rcases h with ⟨a, s', e₁, e₂, h₁, h₂, rfl⟩ | ⟨e, h, rfl⟩ | ⟨n, h, rfl⟩
  · obtain ⟨stage₁, hpath, -, hok, -⟩ := h₁ stage hstage hbuf
    obtain ⟨hflushed, hmid⟩ := hok a rfl
    exact (h₂ stage₁ hmid hflushed.buf).after hpath hflushed
  · obtain ⟨stage₁, hpath, hdelivered, -, herr⟩ := h stage hstage hbuf
    refine ⟨stage₁, hpath, hdelivered, by simp, ?_⟩
    intro e' he'
    cases he'
    exact herr e rfl
  · exact (h stage hstage hbuf).stop (by simp) (by simp)

theorem Hush.flushed {s s' : Session V} {es : List Event} (h : Hush s s') (hbuf : s.conn.wire.writer.buf = [])
    (hes : outputs es = []) : Flushed s es s' := by
  refine ⟨h.buf hbuf, ?_⟩
  rw [Wire.output, Wire.output, h.buf hbuf, hbuf, h.sent, rendered_of_outputs hes]
  simp

/-- An operation that writes nothing leaves the stage. -/
theorem speaks_hush {x : Proc (Session V) ε α} (hx : Keeps Hush x)
    (hok : ∀ s a s' stage, x s = (.ok a, s') → Hush s s' → pre s stage → post a s' stage)
    (herr : ∀ s e s' stage, x s = (.err e, s') → clean e → pre s stage → stage ≠ .over) : Speaks clean pre x post := by
  intro s
  obtain ⟨es, hlog, hes⟩ := (hx s).log
  refine ⟨es, hlog, fun stage hstage hbuf => ?_⟩
  have hflushed : Flushed s es (x s).2 := (hx s).flushed hbuf hes
  refine ⟨stage, by rw [hes]; exact .nil stage, hflushed.delivered, ?_, ?_⟩
  · intro a ha
    exact ⟨hflushed, hok s a _ stage (eq_of_fst ha) (hx s) hstage⟩
  · intro e he hclean
    exact ⟨hflushed, herr s e _ stage (eq_of_fst he) hclean hstage⟩

theorem speaks_pure {a : α} (h : ∀ s stage, pre s stage → post a s stage) :
    Speaks clean pre (pure a : Proc (Session V) ε α) post :=
  speaks_hush (keeps_pure a) (fun s a' s' stage he _ hstage => by cases he; exact h s stage hstage)
    (fun s e s' stage he => by cases he)

theorem speaks_throw {e : ε} (h : clean e → ∀ s stage, pre s stage → stage ≠ .over) :
    Speaks clean pre (throw e : Proc (Session V) ε α) post :=
  speaks_hush (keeps_throw e) (fun s a' s' stage he => by cases he)
    (fun s e' s' stage he hclean hstage => by cases he; exact h hclean s stage hstage)

theorem speaks_mapErr {x : Proc (Session V) ε α} {f : ε → ε'} (hx : Speaks clean pre x post)
    (hclean : ∀ e, clean' (f e) → clean e) : Speaks clean' pre (mapErr f x) post := by
  refine (emits_mapErr hx).mono fun s o es s' h stage hstage hbuf => ?_
  obtain ⟨o', h, ho⟩ := h
  obtain ⟨stage', hpath, hdelivered, hok, herr⟩ := h stage hstage hbuf
  refine ⟨stage', hpath, hdelivered, ?_, ?_⟩
  · intro a ha
    rw [ha] at ho
    cases o' <;> cases ho
    exact hok a rfl
  · intro e he hc
    rw [he] at ho
    cases o' with
    | err e' =>
      cases ho
      exact herr e' rfl (hclean e' hc)
    | ok a => cases ho
    | dropped n => cases ho

theorem speaks_mapErr_never {x : Proc (Session V) ε α} {f : ε → ε'} (hx : Speaks Never pre x post)
    (hclean : ∀ e, ¬ clean' (f e)) : Speaks clean' pre (mapErr f x) post :=
  speaks_mapErr hx fun e he => absurd he (hclean e)

/-- `match x.await`: an error that was not clean is passed on, and nothing is written. -/
theorem speaks_match {x : Proc (Session V) ε α} {f : Except ε α → Proc (Session V) ε' β} (hx : Speaks clean pre x post)
    (hok : ∀ a, Speaks clean' (post a) (f (.ok a)) post')
    (hclean : ∀ e, clean e → Speaks clean' (fun _ stage => stage ≠ .over) (f (.error e)) post')
    (hrest : ∀ e, ¬ clean e → ∃ e', f (.error e) = throw e' ∧ ¬ clean' e') :
    Speaks clean' pre (attempt x >>= f) post' := by
  intro s
  obtain ⟨es, hlog, h⟩ := hx s
  rcases hr : x s with ⟨a | e | n, s'⟩ <;> rw [hr] at h hlog
  · rw [bind_of_ok (attempt_of_ok hr)]
    obtain ⟨e₂, hlog₂, h₂⟩ := hok a s'
    refine ⟨es ++ e₂, by rw [hlog₂, hlog, List.append_assoc], fun stage hstage hbuf => ?_⟩
    obtain ⟨stage₁, hpath, -, hret, -⟩ := h stage hstage hbuf
    obtain ⟨hflushed, hmid⟩ := hret a rfl
    exact (h₂ stage₁ hmid hflushed.buf).after hpath hflushed
  · rw [bind_of_ok (attempt_of_err hr)]
    by_cases hc : clean e
    · obtain ⟨e₂, hlog₂, h₂⟩ := hclean e hc s'
      refine ⟨es ++ e₂, by rw [hlog₂, hlog, List.append_assoc], fun stage hstage hbuf => ?_⟩
      obtain ⟨stage₁, hpath, -, -, hret⟩ := h stage hstage hbuf
      obtain ⟨hflushed, hmid⟩ := hret e rfl hc
      exact (h₂ stage₁ hmid hflushed.buf).after hpath hflushed
    · obtain ⟨e', hthrow, hdirty⟩ := hrest e hc
      rw [hthrow]
      refine ⟨es, hlog, fun stage hstage hbuf => (h stage hstage hbuf).stop (by simp) ?_⟩
      intro e'' he
      cases he
      exact hdirty
  · rw [bind_of_dropped (attempt_of_dropped hr)]
    exact ⟨es, hlog, fun stage hstage hbuf => (h stage hstage hbuf).stop (by simp) (by simp)⟩

/-! ## Messages -/

theorem writeMessage_delivers (tag : UInt8) (body : Bytes) {s : Session V} (hbuf : s.conn.wire.writer.buf = []) :
    Delivered s [.message tag body] (writeMessage tag body s).2 ∧
      ∀ u, (writeMessage tag body s).1 = .ok u → Flushed s [.message tag body] (writeMessage tag body s).2 := by
  have hrendered : rendered [.message tag body] = frame tag body := List.append_nil _
  rw [writeMessage, emit, bind_of_ok (modify_apply _ s)]
  constructor
  · obtain ⟨bs, hout, hprefix, hwhole⟩ := writeFrame_output tag body
      (s := { s with log := s.log ++ [.message tag body] }) hbuf
    refine ⟨bs, hout, by rw [hrendered]; exact hprefix, ?_⟩
    rcases hwhole with rfl | hlong
    · exact Or.inl hrendered.symm
    · exact Or.inr ⟨[], tag, body, rfl, hlong⟩
  · intro u hu
    obtain ⟨hbuf', hout⟩ := writeFrame_ok (eq_of_fst hu)
    exact ⟨hbuf', by rw [hout, hrendered]⟩

/-- A message is allowed at each stage it is written at. -/
theorem speaks_writeMessage {tag : UInt8} {body : Bytes} {post : Unit → Session V → Stage → Prop}
    {clean : InternalError → Prop} (hclean : ∀ e, ¬ clean e)
    (h : ∀ s s' stage, Steady s s' → pre s stage → ∃ stage', Next stage (.message tag body) stage' ∧ post () s' stage') :
    Speaks clean pre (writeMessage (V := V) tag body) post := by
  intro s
  obtain ⟨es, hlog, hsteady, rfl⟩ := emits_writeMessage tag body s
  refine ⟨_, hlog, fun stage hstage hbuf => ?_⟩
  obtain ⟨hdelivered, hflushed⟩ := writeMessage_delivers tag body hbuf
  obtain ⟨stage', hnext, hpost⟩ := h s _ stage hsteady hstage
  exact ⟨stage', .one hnext, hdelivered, fun u hu => ⟨hflushed u hu, hpost⟩, fun e _ hc => absurd hc (hclean e)⟩

end Session

end Wirechaos
