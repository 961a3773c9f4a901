/-
# What arrives from a source

All that a source says is in the order in which its bytes, its reads without bytes and its errors
arrive: interruptions leave no trace, and neither does the way in which bytes are cut into reads
(`readFrom_eq`, `arrivals_buffered`). What arrives is cut into lines by a few rules (`LinesOf`),
and a source reads as these rules have it (`lines_iff`). Lines can be read again from a source
that gives nothing but them (`LinesOf.ofLines`).

Key definitions: `Arrival`, `Source.arrivals`, `LinesOf`, `PhysicalLines`, `Source.buffered`,
`Source.ofLines`, `Source.Delivers`.
Key theorems: `Source.lines_iff`, `Source.arrivals_buffered`, `physicalLines_spec`,
`Source.lines_of_delivers`.
-/
import StreamEditor.Stream.Source

namespace StreamEditor

/-- What arrives from a source: a byte, a read without bytes, or an error. -/
inductive Arrival where
  | byte (b : UInt8)
  | pause
  | failure (cause : SystemError)
  deriving DecidableEq, Repr

/-- What one read brings. An interruption brings nothing. -/
def ReadEvent.arrivals : ReadEvent → List Arrival
  | .data [] => [.pause]
  | .data (b :: bytes) => (b :: bytes).map .byte
  | .error cause => if cause.isInterruption then [] else [.failure cause]

/-- What arrives from a source, in order. -/
def Source.arrivals (s : Source) : List Arrival :=
  s.flatMap ReadEvent.arrivals

/-! ### The rules of lines -/

/-- The lines of what arrives, and the error that ends them if one does. -/
inductive LinesOf : List Arrival → List Bytes → Option SystemError → Prop
  /-- A line feed completes a line. -/
  | feed {body : Bytes} {rest lines ending} : lineFeed ∉ body → LinesOf rest lines ending →
      LinesOf (body.map .byte ++ .byte lineFeed :: rest) ((body ++ [lineFeed]) :: lines) ending
  /-- A read without bytes completes an unfinished line. -/
  | pause {body : Bytes} {rest lines ending} : lineFeed ∉ body → body ≠ [] →
      LinesOf rest lines ending →
      LinesOf (body.map .byte ++ .pause :: rest) (body :: lines) ending
  /-- A read without bytes at the start of a line ends the input. -/
  | stop {rest} : LinesOf (.pause :: rest) [] none
  /-- So does the last arrival, -/
  | finish : LinesOf [] [] none
  /-- and it completes an unfinished line. -/
  | tail {body : Bytes} : lineFeed ∉ body → body ≠ [] → LinesOf (body.map .byte) [body] none
  /-- An error ends the input, and the bytes of an unfinished line are lost. -/
  | failure {body : Bytes} {cause rest} : lineFeed ∉ body →
      LinesOf (body.map .byte ++ .failure cause :: rest) [] (some cause)

/-- The lines in the rest of what arrives, where `line` holds the bytes of the unfinished line in
backward order, and the error that ends them. -/
def readArrivals : Bytes → List Arrival → List Bytes × Option SystemError
  | line, [] => (if line.isEmpty then [] else [line.reverse], none)
  | _, .failure cause :: _ => ([], some cause)
  | line, .pause :: rest =>
    if line.isEmpty then ([], none)
    else (line.reverse :: (readArrivals [] rest).1, (readArrivals [] rest).2)
  | line, .byte b :: rest =>
    if b == lineFeed then
      ((b :: line).reverse :: (readArrivals [] rest).1, (readArrivals [] rest).2)
    else readArrivals (b :: line) rest

theorem readArrivals_bytes : ∀ (bytes line : Bytes) (rest : List Arrival),
    readArrivals line (bytes.map .byte ++ rest) =
      ((cutLines line bytes).1 ++ (readArrivals (cutLines line bytes).2 rest).1,
        (readArrivals (cutLines line bytes).2 rest).2)
  | [], _, _ => rfl
  | b :: bytes, line, rest => by
    rw [List.map_cons, List.cons_append, readArrivals, cutLines]
    by_cases hb : b == lineFeed
    · rw [if_pos hb, if_pos hb, readArrivals_bytes bytes []]
      rfl
    · rw [if_neg hb, if_neg hb, readArrivals_bytes bytes]

/-- Only what arrives matters to a reader. -/
theorem Source.readFrom_eq : ∀ (s : Source) (line : Bytes),
    s.readFrom line = readArrivals line s.arrivals
  | [], _ => rfl
  | .error cause :: rest, line => by
    rw [Source.readFrom, Source.arrivals, List.flatMap_cons, ReadEvent.arrivals]
    by_cases hc : cause.isInterruption
    · rw [if_pos hc, if_pos hc, Source.readFrom_eq rest]
      rfl
    · rw [if_neg hc, if_neg hc]
      rfl
  | .data [] :: rest, line => by
    rw [Source.readFrom, Source.arrivals, List.flatMap_cons, ReadEvent.arrivals,
      List.singleton_append, readArrivals, Source.readFrom_eq rest]
    rfl
  | .data (b :: bytes) :: rest, line => by
    rw [Source.readFrom, Source.arrivals, List.flatMap_cons, ReadEvent.arrivals,
      readArrivals_bytes (b :: bytes)]
    simp only [Source.readFrom_eq rest]
    rfl

/-- Bytes without a line feed only make the unfinished line longer. -/
theorem readArrivals_body : ∀ {body : Bytes}, lineFeed ∉ body →
    ∀ (line : Bytes) (rest : List Arrival),
      readArrivals line (body.map .byte ++ rest) = readArrivals (body.reverse ++ line) rest
  | [], _, _, _ => rfl
  | b :: body, hb, line, rest => by
    have hne : ¬ (b == lineFeed) := by
      rintro h
      exact hb (by simp [beq_iff_eq.mp h])
    rw [List.map_cons, List.cons_append, readArrivals, if_neg hne,
      readArrivals_body fun h => hb (List.mem_cons_of_mem _ h)]
    simp

theorem readArrivals_of_linesOf {arrivals : List Arrival} {lines : List Bytes}
    {ending : Option SystemError} (h : LinesOf arrivals lines ending) :
    readArrivals [] arrivals = (lines, ending) := by
  induction h with
  | feed hb _ ih =>
    rw [readArrivals_body hb, readArrivals, ih]
    simp
  | pause hb hne _ ih =>
    rw [readArrivals_body hb, readArrivals, ih]
    simp [hne]
  | stop => rfl
  | finish => rfl
  | tail hb hne =>
    have := readArrivals_body hb [] []
    rw [List.append_nil] at this
    simp [this, readArrivals, hne]
  | failure hb =>
    rw [readArrivals_body hb]
    rfl

theorem linesOf_readArrivals : ∀ (arrivals : List Arrival) (line : Bytes), lineFeed ∉ line →
    LinesOf (line.reverse.map .byte ++ arrivals) (readArrivals line arrivals).1
      (readArrivals line arrivals).2
  | [], line, hl => by
    cases line with
    | nil => exact .finish
    | cons b line =>
      rw [List.append_nil]
      exact .tail (mt List.mem_reverse.mp hl) (by simp)
  | .failure cause :: rest, line, hl => .failure (mt List.mem_reverse.mp hl)
  | .pause :: rest, line, hl => by
    cases line with
    | nil => exact .stop
    | cons b line =>
      exact .pause (mt List.mem_reverse.mp hl) (by simp) (linesOf_readArrivals rest [] (by simp))
  | .byte b :: rest, line, hl => by
    rw [readArrivals]
    by_cases hb : b == lineFeed
    · rw [if_pos hb, beq_iff_eq.mp hb, List.reverse_cons]
      exact .feed (mt List.mem_reverse.mp hl) (linesOf_readArrivals rest [] (by simp))
    · rw [if_neg hb]
      have := linesOf_readArrivals rest (b :: line) (by
        rw [List.mem_cons, not_or]
        exact ⟨fun h => hb (beq_iff_eq.mpr h.symm), hl⟩)
      simpa using this

/-- **A source reads by the rules of lines**: they give its lines and what ends it, and nothing
else. -/
theorem Source.lines_iff (s : Source) (lines : List Bytes) (ending : Option SystemError) :
    LinesOf s.arrivals lines ending ↔ s.lines = lines ∧ s.ending = ending := by
  rw [Source.lines, Source.ending, s.readFrom_eq]
  constructor
  · intro h
    simp [readArrivals_of_linesOf h]
  · rintro ⟨rfl, rfl⟩
    exact linesOf_readArrivals s.arrivals [] (by simp)

/-! ### Buffers -/

/-- Bytes in chunks of `size + 1` bytes, of which the last may be shorter. -/
def chunks (size : Nat) (bytes : Bytes) : List Bytes :=
  if bytes.length ≤ size + 1 then [bytes]
  else bytes.take (size + 1) :: chunks size (bytes.drop (size + 1))
termination_by bytes.length
decreasing_by
  rw [List.length_drop]
  omega

/-- A source read through a buffer of `size + 1` bytes: a read brings no more than that. -/
def Source.buffered (size : Nat) (s : Source) : Source :=
  s.flatMap fun
    | .data bytes => (chunks size bytes).map .data
    | .error cause => [.error cause]

theorem arrivals_chunks (size : Nat) (bytes : Bytes) :
    Source.arrivals ((chunks size bytes).map .data) = ReadEvent.arrivals (.data bytes) := by
  induction bytes using chunks.induct size with
  | case1 bytes h => simp [chunks, h, Source.arrivals]
  | case2 bytes h ih =>
    have harr : ∀ {a : Bytes}, a ≠ [] → ReadEvent.arrivals (.data a) = a.map .byte := by
      intro a ha
      cases a with
      | nil => exact absurd rfl ha
      | cons => rfl
    have hlen : ∀ {a : Bytes}, 0 < a.length → a ≠ [] := List.ne_nil_of_length_pos
    rw [chunks, if_neg h, List.map_cons, Source.arrivals, List.flatMap_cons]
    change _ ++ Source.arrivals _ = _
    rw [ih, harr (hlen (by simp; omega)), harr (hlen (by simp; omega)), harr (hlen (by omega)),
      ← List.map_append, List.take_append_drop]

/-- **A buffer changes nothing** of what arrives. -/
theorem Source.arrivals_buffered (size : Nat) : ∀ s : Source,
    (s.buffered size).arrivals = s.arrivals
  | [] => rfl
  | event :: rest => by
    have ih := Source.arrivals_buffered size rest
    unfold Source.buffered at *
    rw [List.flatMap_cons, Source.arrivals, List.flatMap_append]
    change _ ++ Source.arrivals _ = ReadEvent.arrivals event ++ Source.arrivals rest
    rw [ih]
    cases event with
    | data bytes => exact congrArg (· ++ _) (arrivals_chunks size bytes)
    | error cause => simp

/-! ### Lines read again -/

/-- The source that gives some lines and nothing else, with a read without bytes behind each one
that no line feed completes. -/
def Source.ofLines (lines : List Bytes) : Source :=
  lines.flatMap fun line =>
    if line.getLast? = some lineFeed then [.data line] else [.data line, .data []]

theorem Source.arrivals_ofLines_cons (line : Bytes) (lines : List Bytes) (h : line ≠ []) :
    (Source.ofLines (line :: lines)).arrivals =
      line.map .byte ++ (if line.getLast? = some lineFeed then [] else [.pause]) ++
        (Source.ofLines lines).arrivals := by
  obtain ⟨b, bytes, rfl⟩ := List.exists_cons_of_ne_nil h
  unfold Source.ofLines Source.arrivals
  rw [List.flatMap_cons, List.flatMap_append]
  split <;> simp [ReadEvent.arrivals]

/-- **Lines read once can be read again**, without an error at their end. -/
theorem LinesOf.ofLines {arrivals : List Arrival} {lines : List Bytes} {ending : Option SystemError}
    (h : LinesOf arrivals lines ending) : LinesOf (Source.ofLines lines).arrivals lines none := by
  have hopen : ∀ {body : Bytes}, lineFeed ∉ body → body.getLast? ≠ some lineFeed :=
    fun hb h => hb (List.mem_of_getLast? h)
  induction h with
  | feed hb _ ih =>
    rw [Source.arrivals_ofLines_cons _ _ (by simp)]
    simpa using LinesOf.feed hb ih
  | pause hb hne _ ih =>
    rw [Source.arrivals_ofLines_cons _ _ hne, if_neg (hopen hb), List.append_assoc]
    exact .pause hb hne ih
  | stop => exact .finish
  | finish => exact .finish
  | tail hb hne =>
    rw [Source.arrivals_ofLines_cons _ _ hne, if_neg (hopen hb), List.append_assoc]
    exact .pause hb hne .finish
  | failure _ => exact .finish

/-! ### Physical lines -/

/-- The physical lines of some bytes: none is empty, a line feed ends a line, and all but the last
line end in one. -/
structure PhysicalLines (bytes : Bytes) (lines : List Bytes) : Prop where
  whole : lines.flatten = bytes
  nonempty : ∀ line ∈ lines, line ≠ []
  cut : ∀ line ∈ lines, lineFeed ∉ line.dropLast
  complete : ∀ line ∈ lines.dropLast, line.getLast? = some lineFeed

theorem cutLines_spec : ∀ (bytes line : Bytes), lineFeed ∉ line →
    (cutLines line bytes).1.flatten ++ (cutLines line bytes).2.reverse = line.reverse ++ bytes ∧
      (∀ l ∈ (cutLines line bytes).1, ∃ body, lineFeed ∉ body ∧ l = body ++ [lineFeed]) ∧
      lineFeed ∉ (cutLines line bytes).2
  | [], line, hl => by simp [cutLines, hl]
  | b :: bytes, line, hl => by
    rw [cutLines]
    by_cases hb : b == lineFeed
    · obtain ⟨h1, h2, h3⟩ := cutLines_spec bytes [] (by simp)
      rw [if_pos hb]
      refine ⟨by simpa using h1, ?_, h3⟩
      intro l hm
      rcases List.mem_cons.mp hm with rfl | hm
      · exact ⟨line.reverse, by simpa using hl, by simp [beq_iff_eq.mp hb]⟩
      · exact h2 l hm
    · rw [if_neg hb]
      have := cutLines_spec bytes (b :: line) (by
        rw [List.mem_cons, not_or]
        exact ⟨fun h => hb (beq_iff_eq.mpr h.symm), hl⟩)
      simpa using this

theorem physicalLines_eq (bytes : Bytes) : physicalLines bytes =
    (cutLines [] bytes).1 ++
      if (cutLines [] bytes).2.isEmpty then [] else [(cutLines [] bytes).2.reverse] := by
  unfold physicalLines
  simp only
  split <;> simp

/-- **Bytes are cut into their physical lines.** -/
theorem physicalLines_spec (bytes : Bytes) : PhysicalLines bytes (physicalLines bytes) := by
  obtain ⟨h1, h2, h3⟩ := cutLines_spec bytes [] (by simp)
  rw [physicalLines_eq]
  generalize (cutLines [] bytes).1 = done at *
  generalize (cutLines [] bytes).2 = last at *
  have hdone : ∀ l ∈ done, l ≠ [] ∧ lineFeed ∉ l.dropLast ∧ l.getLast? = some lineFeed := by
    intro l hl
    obtain ⟨body, hb, rfl⟩ := h2 l hl
    simp [hb]
  cases last with
  | nil =>
    simp only [List.isEmpty_nil, ↓reduceIte, List.append_nil]
    exact ⟨by simpa using h1, fun l hl => (hdone l hl).1, fun l hl => (hdone l hl).2.1,
      fun l hl => (hdone l (List.dropLast_subset _ hl)).2.2⟩
  | cons b rest =>
    simp only [List.isEmpty_cons, Bool.false_eq_true, ↓reduceIte]
    refine ⟨by simpa using h1, ?_, ?_, ?_⟩
    · intro l hl
      rcases List.mem_append.mp hl with hl | hl
      · exact (hdone l hl).1
      · simp_all
    · intro l hl
      rcases List.mem_append.mp hl with hl | hl
      · exact (hdone l hl).2.1
      · rw [List.mem_singleton.mp hl]
        exact fun h => h3 (List.mem_reverse.mp (List.dropLast_subset _ h))
    · intro l hl
      rw [List.dropLast_concat] at hl
      exact (hdone l hl).2.2

/-- The rules of lines give any physical lines of some bytes when just these bytes arrive. -/
theorem PhysicalLines.linesOf {lines : List Bytes} : ∀ {bytes : Bytes}, PhysicalLines bytes lines →
    LinesOf (bytes.map .byte) lines none := by
  induction lines with
  | nil =>
    intro bytes h
    rw [← h.whole]
    exact .finish
  | cons line lines ih =>
    intro bytes h
    have hcut := h.cut line List.mem_cons_self
    have hne := h.nonempty line List.mem_cons_self
    rw [← h.whole, List.flatten_cons, List.map_append]
    by_cases hlast : line.getLast? = some lineFeed
    · have hrest : PhysicalLines lines.flatten lines :=
        ⟨rfl, fun l hl => h.nonempty l (List.mem_cons_of_mem _ hl),
          fun l hl => h.cut l (List.mem_cons_of_mem _ hl), fun l hl => h.complete l (by
            rw [List.dropLast_cons_of_ne_nil (by rintro rfl; simp at hl)]
            exact List.mem_cons_of_mem _ hl)⟩
      obtain ⟨body, rfl⟩ := List.getLast?_eq_some_iff.mp hlast
      rw [List.dropLast_concat] at hcut
      simpa using LinesOf.feed hcut (ih hrest)
    · have hbody : lineFeed ∉ line := by
        intro hm
        rw [← List.dropLast_concat_getLast hne] at hm
        rcases List.mem_append.mp hm with hm | hm
        · exact hcut hm
        · exact hlast (by rw [List.mem_singleton.mp hm, List.getLast?_eq_some_getLast hne])
      -- Only the last line may be unfinished.
      cases lines with
      | nil => simpa using LinesOf.tail hbody hne
      | cons next lines => exact absurd (h.complete line (by simp)) hlast

/-- **Bytes have no other physical lines** than those into which they are cut. -/
theorem PhysicalLines.eq {bytes : Bytes} {lines : List Bytes} (h : PhysicalLines bytes lines) :
    lines = physicalLines bytes :=
  congrArg Prod.fst ((readArrivals_of_linesOf h.linesOf).symm.trans
    (readArrivals_of_linesOf (physicalLines_spec bytes).linesOf))

/-- **Some of the physical lines, in their order, are cut apart again** when they are put together:
whichever of them is the last, all before it end in a line feed. -/
theorem PhysicalLines.sublist {bytes : Bytes} {lines kept : List Bytes}
    (h : PhysicalLines bytes lines) (hkept : kept.Sublist lines) :
    PhysicalLines kept.flatten kept where
  whole := rfl
  nonempty l hl := h.nonempty l (hkept.subset hl)
  cut l hl := h.cut l (hkept.subset hl)
  complete l hl := by
    have hdrop : kept.dropLast.Sublist lines.dropLast := by
      simpa [List.tail_reverse] using hkept.reverse.tail.reverse
    exact h.complete l (hdrop.subset hl)

/-- A source delivers some bytes if they arrive from it without an error, and nothing after
them. -/
def Source.Delivers (s : Source) (bytes : Bytes) : Prop :=
  ∃ n, s.arrivals = bytes.map .byte ++ List.replicate n .pause

theorem Source.ofBytes_delivers (bytes : Bytes) : (Source.ofBytes bytes).Delivers bytes := by
  cases bytes with
  | nil => exact ⟨1, rfl⟩
  | cons b bytes => exact ⟨0, by simp [Source.ofBytes, Source.arrivals, ReadEvent.arrivals]⟩

/-- **The lines of a source that delivers some bytes are their physical lines**, however the bytes
arrive. -/
theorem Source.lines_of_delivers {s : Source} {bytes : Bytes} (h : s.Delivers bytes) :
    s.lines = physicalLines bytes ∧ s.ending = none := by
  obtain ⟨n, h⟩ := h
  have hrest : ∀ (line : Bytes), readArrivals line (List.replicate n .pause) =
      (if line.isEmpty then [] else [line.reverse], none) := by
    intro line
    rcases n with - | - | n
    · rfl
    · cases line <;> rfl
    · cases line <;> rfl
  rw [Source.lines, Source.ending, s.readFrom_eq, h, readArrivals_bytes, hrest, physicalLines_eq]
  exact ⟨rfl, rfl⟩

end StreamEditor
