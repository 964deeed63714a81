import BenefitCasework.Envelope
import BenefitCasework.Table
import Mathlib.Data.List.Nodup

/-!
Contract: envelopes on their way, seen stream by stream.

Owns:
- `Holdings`, the envelopes that have not gone out: those that block their
  streams, those held behind them, and those that nobody has tried;
- `Holdings.ofStream`, the envelopes of a stream in the order in which they
  have to go out;
- `Holdings.Sound`, one blocking envelope for each stream behind which
  something may be held;
- what holding, parking, sending and releasing an envelope do to both.

Does not own: the relay, which decides what is done.
-/

namespace BenefitCasework

/-- The envelopes of one stream. -/
def onStream (stream : String) (envelopes : List Envelope) : List Envelope :=
  envelopes.filter fun envelope => decide (envelope.stream = stream)

section OnStream

variable {stream : String} {envelope : Envelope}

@[simp]
theorem onStream_nil : onStream stream [] = [] := rfl

@[simp]
theorem onStream_append (front back : List Envelope) :
    onStream stream (front ++ back) = onStream stream front ++ onStream stream back :=
  List.filter_append front back

theorem onStream_cons_of_eq (same : envelope.stream = stream) (rest : List Envelope) :
    onStream stream (envelope :: rest) = envelope :: onStream stream rest :=
  List.filter_cons_of_pos (by simpa using same)

theorem onStream_cons_of_ne (different : envelope.stream ≠ stream) (rest : List Envelope) :
    onStream stream (envelope :: rest) = onStream stream rest :=
  List.filter_cons_of_neg (by simpa using different)

theorem onStream_eq_nil {envelopes : List Envelope}
    (absent : stream ∉ envelopes.map Envelope.stream) : onStream stream envelopes = [] := by
  apply List.filter_eq_nil_iff.mpr
  intro envelope member same
  exact absent (List.mem_map.mpr ⟨envelope, member, of_decide_eq_true same⟩)

/-- Two lists that agree on every stream have the same envelopes. -/
theorem perm_of_onStream {left right : List Envelope}
    (same : ∀ stream, onStream stream left = onStream stream right) : left.Perm right := by
  refine List.perm_iff_count.mpr fun envelope => ?_
  have counted (envelopes : List Envelope) :
      (onStream envelope.stream envelopes).count envelope = envelopes.count envelope :=
    List.count_filter (decide_eq_true rfl)
  rw [← counted left, ← counted right, same]

end OnStream

/-- The envelopes that have not gone out. -/
structure Holdings where
  blocking : List Envelope
  held : Table String (List Envelope)
  untried : List Envelope

/-- What is held is held under its own stream. -/
def InPlace (held : Table String (List Envelope)) : Prop :=
  ∀ stream waiting, held.get? stream = some waiting →
    ∀ envelope ∈ waiting, envelope.stream = stream

namespace InPlace

variable {held : Table String (List Envelope)} {stream : String} {waiting : List Envelope}

theorem set (inPlace : InPlace held) (own : ∀ envelope ∈ waiting, envelope.stream = stream) :
    InPlace (Table.set stream waiting held) := by
  intro other later stored
  by_cases same : other = stream
  · rw [same, Table.get?_set_self] at stored
    cases stored
    rw [same]
    exact own
  · rw [Table.get?_set_of_ne same] at stored
    exact inPlace other later stored

theorem erase (inPlace : InPlace held) : InPlace (Table.erase stream held) := by
  intro other later stored
  by_cases same : other = stream
  · rw [same, Table.get?_erase_self] at stored
    cases stored
  · rw [Table.get?_erase_of_ne same] at stored
    exact inPlace other later stored

end InPlace

namespace Holdings

/-- The envelopes of a stream, in the order in which they have to go out. -/
def ofStream (holdings : Holdings) (stream : String) : List Envelope :=
  onStream stream holdings.blocking ++ (holdings.held.get? stream).getD [] ++
    onStream stream holdings.untried

/-- Each stream is blocked by at most one envelope; just behind the blocked
streams something may be held, and what is held there is of that stream. -/
structure Sound (holdings : Holdings) : Prop where
  distinct : (holdings.blocking.map Envelope.stream).Nodup
  blocked : ∀ stream, (holdings.held.get? stream).isSome = true ↔
    stream ∈ holdings.blocking.map Envelope.stream
  inPlace : InPlace holdings.held

/-- After some envelopes were sent, a sound rest is left, and nothing else has
changed on any stream. -/
def Sends (before : Holdings) (sent : List Envelope) (after : Holdings) : Prop :=
  after.Sound ∧ ∀ stream, onStream stream sent ++ after.ofStream stream = before.ofStream stream

theorem Sends.refl {holdings : Holdings} (sound : holdings.Sound) : holdings.Sends [] holdings :=
  ⟨sound, fun _ => rfl⟩

theorem Sends.trans {first second third : Holdings} {sent later : List Envelope}
    (left : first.Sends sent second) (right : second.Sends later third) :
    first.Sends (sent ++ later) third := by
  refine ⟨right.1, fun stream => ?_⟩
  rw [onStream_append, List.append_assoc, right.2, left.2]

/-- What nobody has tried may change. -/
theorem Sound.withUntried {holdings : Holdings} (sound : holdings.Sound)
    (untried : List Envelope) : Sound { holdings with untried := untried } :=
  ⟨sound.distinct, sound.blocked, sound.inPlace⟩

/-- What comes last is to go out last. -/
theorem ofStream_append_untried (holdings : Holdings) (later : List Envelope) (stream : String) :
    ofStream { holdings with untried := holdings.untried ++ later } stream =
      holdings.ofStream stream ++ onStream stream later := by
  simp only [ofStream, onStream_append, List.append_assoc]

section Steps

variable {blocking front back untried : List Envelope} {held : Table String (List Envelope)}
  {envelope next : Envelope} {waiting : List Envelope}

theorem not_mem_of_get?_none (sound : Sound ⟨blocking, held, untried⟩)
    (free : held.get? envelope.stream = none) :
    envelope.stream ∉ blocking.map Envelope.stream := by
  intro member
  have present := (sound.blocked envelope.stream).mpr member
  simp [free] at present

/-- An envelope is held behind those held before it. -/
theorem sends_hold (sound : Sound ⟨blocking, held, envelope :: untried⟩)
    (found : held.get? envelope.stream = some waiting) :
    Sends ⟨blocking, held, envelope :: untried⟩ []
      ⟨blocking, held.set envelope.stream (waiting ++ [envelope]), untried⟩ := by
  refine ⟨⟨sound.distinct, ?_, sound.inPlace.set ?_⟩, ?_⟩
  · intro stream
    rw [← sound.blocked stream, Table.isSome_get?_set_iff]
    exact or_iff_right_of_imp fun same => by simp [same, found]
  · intro member present
    rcases List.mem_append.mp present with earlier | now
    · exact sound.inPlace _ _ found member earlier
    · rw [List.mem_singleton.mp now]
  · intro stream
    by_cases same : envelope.stream = stream
    · subst same
      simp [ofStream, found, onStream_cons_of_eq]
    · simp [ofStream, Table.get?_set_of_ne (Ne.symm same), onStream_cons_of_ne same]

/-- An envelope of a free stream goes out. -/
theorem sends_untried (sound : Sound ⟨blocking, held, envelope :: untried⟩)
    (free : held.get? envelope.stream = none) :
    Sends ⟨blocking, held, envelope :: untried⟩ [envelope] ⟨blocking, held, untried⟩ := by
  refine ⟨⟨sound.distinct, sound.blocked, sound.inPlace⟩, ?_⟩
  intro stream
  by_cases same : envelope.stream = stream
  · subst same
    have none := onStream_eq_nil (not_mem_of_get?_none sound free)
    simp [ofStream, free, none, onStream_cons_of_eq]
  · simp [ofStream, onStream_cons_of_ne same]

/-- An envelope of a free stream is parked and blocks its stream. -/
theorem sends_park (sound : Sound ⟨blocking, held, envelope :: untried⟩)
    (free : held.get? envelope.stream = none) :
    Sends ⟨blocking, held, envelope :: untried⟩ []
      ⟨blocking ++ [envelope], held.set envelope.stream [], untried⟩ := by
  have absent := not_mem_of_get?_none sound free
  refine ⟨⟨?_, ?_, sound.inPlace.set (by simp)⟩, ?_⟩
  · rw [List.map_append, List.map_singleton, ← List.concat_eq_append]
    exact sound.distinct.concat absent
  · intro stream
    rw [Table.isSome_get?_set_iff, sound.blocked stream]
    simp [or_comm]
  · intro stream
    by_cases same : envelope.stream = stream
    · subst same
      simp [ofStream, free, onStream_eq_nil absent, onStream_cons_of_eq]
    · simp [ofStream, Table.get?_set_of_ne (Ne.symm same), onStream_cons_of_ne same]

/-- Around a blocking envelope nothing else blocks its stream. -/
theorem onStream_around (sound : Sound ⟨front ++ envelope :: back, held, untried⟩) :
    onStream envelope.stream front = [] ∧ onStream envelope.stream back = [] := by
  have distinct := sound.distinct
  simp only [List.map_append, List.map_cons, List.nodup_append, List.nodup_cons,
    List.mem_cons] at distinct
  obtain ⟨-, ⟨notBehind, -⟩, apart⟩ := distinct
  refine ⟨onStream_eq_nil fun member => ?_, onStream_eq_nil notBehind⟩
  exact apart _ member _ (Or.inl rfl) rfl

/-- A blocking envelope goes out, and the first one held behind it takes its
place. -/
theorem sends_release (sound : Sound ⟨front ++ envelope :: back, held, untried⟩)
    (found : held.get? envelope.stream = some (next :: waiting)) :
    Sends ⟨front ++ envelope :: back, held, untried⟩ [envelope]
      ⟨front ++ next :: back, held.set envelope.stream waiting, untried⟩ := by
  have sameStream : next.stream = envelope.stream :=
    sound.inPlace _ _ found next List.mem_cons_self
  have streams : (front ++ next :: back).map Envelope.stream =
      (front ++ envelope :: back).map Envelope.stream := by simp [sameStream]
  refine ⟨⟨?_, ?_, sound.inPlace.set ?_⟩, ?_⟩
  · simp only [streams]
    exact sound.distinct
  · intro stream
    simp only [streams, ← sound.blocked stream, Table.isSome_get?_set_iff]
    exact or_iff_right_of_imp fun same => by simp [same, found]
  · intro member present
    exact sound.inPlace _ _ found member (List.mem_cons_of_mem _ present)
  · intro stream
    by_cases same : envelope.stream = stream
    · subst same
      obtain ⟨noneBefore, noneBehind⟩ := onStream_around sound
      simp [ofStream, found, noneBefore, noneBehind, onStream_cons_of_eq, sameStream]
    · have other : next.stream ≠ stream := fun equal => same (sameStream.symm.trans equal)
      simp [ofStream, Table.get?_set_of_ne (Ne.symm same), onStream_cons_of_ne same,
        onStream_cons_of_ne other]

/-- A blocking envelope goes out with nothing held behind it, and its stream is
free. -/
theorem sends_unblock (sound : Sound ⟨front ++ envelope :: back, held, untried⟩)
    (found : held.get? envelope.stream = some []) :
    Sends ⟨front ++ envelope :: back, held, untried⟩ [envelope]
      ⟨front ++ back, held.erase envelope.stream, untried⟩ := by
  have distinct := sound.distinct
  simp only [List.map_append, List.map_cons] at distinct
  have apart := List.nodup_middle.mp distinct
  refine ⟨⟨?_, ?_, sound.inPlace.erase⟩, ?_⟩
  · simpa using (List.nodup_cons.mp apart).2
  · intro stream
    by_cases same : stream = envelope.stream
    · subst same
      have absent := (List.nodup_cons.mp apart).1
      simpa using absent
    · rw [Table.get?_erase_of_ne same, sound.blocked stream]
      simp [same]
  · intro stream
    by_cases same : envelope.stream = stream
    · subst same
      obtain ⟨noneBefore, noneBehind⟩ := onStream_around sound
      simp [ofStream, found, noneBefore, noneBehind, onStream_cons_of_eq]
    · simp [ofStream, Table.get?_erase_of_ne (Ne.symm same), onStream_cons_of_ne same]

end Steps

end Holdings

end BenefitCasework
