import PrismaZod.Proofs.Protocol.Exchange
import PrismaZod.Proofs.Protocol.Framing

/-!
# Services one after the other

All that a service keeps from one request to the next is the disk.  So serving an
input and what follows it is serving the two in turn, and a line that asks for no
generation can be left out without changing any other response.
-/

namespace PrismaZod

/-- The line asks to generate, with parameters that can be read. -/
def Request.Generates (line : String) : Prop :=
  ∃ request options, Request.ofLine line = .ok request ∧ request.method = "generate" ∧
    GeneratorOptions.ofParameters request.parameters = .ok options

theorem result_serveLines_cons {line : List UInt8} {text : String}
    (isText : Framing.text? line = some text) (lines : List (List UInt8)) (disk : Disk) :
    let middle := disk.left (answer? text)
    let others := middle.result (serveLines lines)
    disk.result (serveLines (line :: lines)) =
        ⟨(disk.result (answer? text)).toList ++ others.responses, others.complete⟩ ∧
      disk.left (serveLines (line :: lines)) = middle.left (serveLines lines) := by
  have later (first : Option Response) : IgnoresLog (serveLines lines >>= fun others =>
      pure { others with responses := first.toList ++ others.responses } : StateM World _) :=
    .bind (ignoresLog_serveLines lines) fun _ => .pure _
  have split := IgnoresLog.result_bind (answer? text) later disk
  rw [serveLines, isText]
  exact split

/-- The lines after others are served on the disk that these have left, unless
the service ends among these. -/
theorem result_serveLines_append (front back : List (List UInt8)) (disk : Disk) :
    let opening := disk.result (serveLines front)
    let middle := disk.left (serveLines front)
    let closing := middle.result (serveLines back)
    disk.result (serveLines (front ++ back)) =
        (if opening.complete then
          ⟨opening.responses ++ closing.responses, closing.complete⟩ else opening) ∧
      disk.left (serveLines (front ++ back)) =
        if opening.complete then middle.left (serveLines back) else middle := by
  induction front generalizing disk with
  | nil => exact ⟨rfl, rfl⟩
  | cons line front ih =>
      cases decoded : Framing.text? line with
      | none =>
          have ends (rest : List (List UInt8)) :
              (serveLines (line :: rest) : StateM World _) = pure ⟨[], false⟩ := by
            rw [serveLines, decoded]
          rw [List.cons_append, ends, ends]
          exact ⟨rfl, rfl⟩
      | some text =>
          obtain ⟨service, left⟩ := ih (disk.left (answer? text))
          obtain ⟨serviceBoth, leftBoth⟩ := result_serveLines_cons decoded (front ++ back) disk
          obtain ⟨serviceFront, leftFront⟩ := result_serveLines_cons decoded front disk
          rw [List.cons_append, serviceBoth, leftBoth, serviceFront, leftFront, service, left]
          dsimp only
          refine ⟨?_, rfl⟩
          split
          · rw [List.append_assoc]
          · rfl

/-- An answer to a line that asks for no generation leaves the disk as it is. -/
theorem left_answer? {text : String} (asksNothing : ¬Request.Generates text) (disk : Disk) :
    disk.left (answer? text) = disk := by
  cases blank : Text.isBlankText text with
  | true => rw [answer?, if_pos blank, Disk.left, run_pure]
  | false =>
      obtain ⟨response, -, answered⟩ := answered_answer? blank ⟨disk, []⟩
      exact answered.owed.unchanged asksNothing

/-- What serving an input comes to with and without one of its lines: only the
response to that line, if it has one, is missing. -/
structure Spared (disk : Disk) (before : List (List UInt8)) (text : String)
    (input shorter : List UInt8) : Prop where
  responses : ∃ removed rest,
    (removed = none ∨ removed = (disk.left (serveLines before)).result (answer? text)) ∧
      (disk.result (serve input)).responses =
        (disk.result (serveLines before)).responses ++ removed.toList ++ rest ∧
      (disk.result (serve shorter)).responses =
        (disk.result (serveLines before)).responses ++ rest
  complete : (disk.result (serve input)).complete = (disk.result (serve shorter)).complete
  left : disk.left (serve input) = disk.left (serve shorter)

theorem spared {disk : Disk} {before after : List (List UInt8)} {line : List UInt8}
    {text : String} {input shorter : List UInt8}
    (isLine : Framing.lines input = before ++ line :: after)
    (without : Framing.lines shorter = before ++ after)
    (isText : Framing.text? line = some text) (asksNothing : ¬Request.Generates text) :
    Spared disk before text input shorter := by
  obtain ⟨serviceInput, leftInput⟩ := result_serveLines_append before (line :: after) disk
  obtain ⟨serviceShorter, leftShorter⟩ := result_serveLines_append before after disk
  -- The lines after find the same disk with the line and without it.
  obtain ⟨serviceLine, leftLine⟩ :=
    result_serveLines_cons isText after (disk.left (serveLines before))
  rw [left_answer? asksNothing] at serviceLine leftLine
  rw [serviceLine, ← isLine, ← serve] at serviceInput
  rw [leftLine, ← isLine, ← serve] at leftInput
  rw [← without, ← serve] at serviceShorter leftShorter
  refine { responses := ?_, complete := ?_, left := leftInput.trans leftShorter.symm }
  · cases reached : (disk.result (serveLines before)).complete with
    | true =>
        rw [if_pos reached] at serviceInput serviceShorter
        refine ⟨_, _, .inr rfl, ?_, congrArg Service.responses serviceShorter⟩
        rw [serviceInput, List.append_assoc]
    | false =>
        rw [if_neg (by simp [reached])] at serviceInput serviceShorter
        refine ⟨none, [], .inl rfl, ?_, ?_⟩
        · rw [serviceInput]
          simp
        · rw [serviceShorter, List.append_nil]
  · rw [serviceInput, serviceShorter]
    split <;> rfl

/-- A text is served to its end. -/
theorem complete_serve {input : List UInt8} (isText : (Framing.text? input).isSome = true)
    (start : World) : ((serve input : StateM World Service).run start).1.complete = true :=
  (exchange_serveLines (Framing.lines input) start).2.mpr fun _ among =>
    Framing.isSome_text?_of_mem_lines isText among

/-- An input that is served to its end, and an input after it, are served in turn. -/
theorem serve_append {first : List UInt8} (isText : (Framing.text? first).isSome = true)
    (ends : first.getLast? = some Framing.lineFeed) (second : List UInt8) (disk : Disk) :
    let middle := disk.left (serve first)
    let closing := middle.result (serve second)
    disk.result (serve (first ++ second)) =
        ⟨(disk.result (serve first)).responses ++ closing.responses, closing.complete⟩ ∧
      disk.left (serve (first ++ second)) = middle.left (serve second) := by
  have toEnd : (disk.result (serve first)).complete = true := complete_serve isText ⟨disk, []⟩
  obtain ⟨service, left⟩ :=
    result_serveLines_append (Framing.lines first) (Framing.lines second) disk
  rw [← Framing.lines_append ends, ← serve, ← serve, ← serve, toEnd] at service left
  exact ⟨service, left⟩

/-- Requests meet on the disk only.  An input that ends with a line feed and what
follows it are served as two inputs are, the second on the disk that the first has
left; and a line that asks for no generation makes no difference to what else is
answered, nor to the disk. -/
theorem serve_meets_on_disk :
    (∀ input, IgnoresLog (serve input : StateM World Service)) ∧
      ∀ disk : Disk,
        (∀ first second : List UInt8, (Framing.text? first).isSome = true →
          first.getLast? = some Framing.lineFeed →
            let middle := disk.left (serve first)
            let closing := middle.result (serve second)
            disk.result (serve (first ++ second)) =
                ⟨(disk.result (serve first)).responses ++ closing.responses, closing.complete⟩ ∧
              disk.left (serve (first ++ second)) = middle.left (serve second)) ∧
          ∀ (input shorter : List UInt8) (before after : List (List UInt8)) (line : List UInt8)
            (text : String), Framing.lines input = before ++ line :: after →
              Framing.lines shorter = before ++ after → Framing.text? line = some text →
                ¬Request.Generates text → Spared disk before text input shorter := by
  refine ⟨fun input => ignoresLog_serveLines _, fun disk => ⟨?_, ?_⟩⟩
  · intro first second isText ends
    exact serve_append isText ends second disk
  · intro input shorter before after line text isLine without isText asksNothing
    exact spared isLine without isText asksNothing

/-- A request of an unknown method stands between two that generate. -/
theorem serve_meets_on_disk_unknown :
    let generating := "[\"generate\",[[],[[]]]]"
    let unknown := "[\"drop\",null,7]"
    let first := encoded (generating ++ "\n" ++ unknown ++ "\r\n").toList
    let second := encoded generating.toList
    let shorter := encoded (generating ++ "\n" ++ generating).toList
    let middle := Disk.fresh.left (serve first)
    let closing := middle.result (serve second)
    ((Framing.text? first).isSome = true ∧ first.getLast? = some Framing.lineFeed ∧
        Disk.fresh.result (serve (first ++ second)) =
          ⟨(Disk.fresh.result (serve first)).responses ++ closing.responses, closing.complete⟩ ∧
        Disk.fresh.left (serve (first ++ second)) = middle.left (serve second)) ∧
      Framing.lines (first ++ second) = [second] ++ encoded unknown.toList :: [second] ∧
      Framing.lines shorter = [second] ++ [second] ∧
      Framing.text? (encoded unknown.toList) = some unknown ∧ ¬Request.Generates unknown ∧
      Spared Disk.fresh [second] unknown (first ++ second) shorter := by
  intro generating unknown first second shorter middle closing
  have isText : (Framing.text? first).isSome = true := Framing.isSome_text?_iff.mpr ⟨_, rfl⟩
  have ends : first.getLast? = some Framing.lineFeed := by decide +kernel
  have isLine : Framing.lines (first ++ second) =
      [second] ++ encoded unknown.toList :: [second] := by decide +kernel
  have without : Framing.lines shorter = [second] ++ [second] := by decide +kernel
  have isUnknown : Framing.text? (encoded unknown.toList) = some unknown := by decide +kernel
  have asksNothing : ¬Request.Generates unknown := by
    have other : (Request.ofLine unknown).toOption.map (·.method) = some "drop" := by
      decide +kernel
    rintro ⟨request, options, read, method, -⟩
    rw [read] at other
    simp [Except.toOption, method] at other
  obtain ⟨inTurn, leftOut⟩ := serve_meets_on_disk.2 Disk.fresh
  exact ⟨⟨isText, ends, inTurn first second isText ends⟩, isLine, without, isUnknown, asksNothing,
    leftOut _ _ _ _ _ _ isLine without isUnknown asksNothing⟩

end PrismaZod
