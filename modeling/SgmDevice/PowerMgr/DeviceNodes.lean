import SgmDevice.PowerMgr.BGS2CMux

/-!
# The major number of the device nodes

`get_major` takes the number of the first line that mentions the driver's name anywhere and reads as
a number and a field, which it stores in `device[20]`.  Its result is the number that
`/proc/devices` assigns to the driver if and only if this line assigns it, or the lines behind it
make up for that (`major_of_driver_iff`); a file that cannot be opened counts as the number 1.
-/

namespace SgmDevice

open ICMuxDriver (Result)

namespace BGS2CMux

open CStrings

/-- The line reads `<number> gsmtty`, with any blanks around the two. -/
def Assigns (number : ℕ) (line : List Char) : Prop :=
  ∃ blank digits gap tail, line = blank ++ (digits ++ (gap ++ (DRIVER_NAME ++ tail))) ∧
    (∀ c ∈ blank, isSpace c) ∧ (∀ c ∈ digits, c.isDigit) ∧ digits ≠ [] ∧
    (∀ c ∈ gap, isSpace c) ∧ gap ≠ [] ∧ (∀ c ∈ tail, isSpace c) ∧ numeral digits = number

/-- The file assigns the number to the driver. -/
def MajorOf (procDevices : Option (List (List Char))) (major : Int) : Prop :=
  ∃ lines ∈ procDevices, ∃ line ∈ lines, ∃ number : ℕ, Assigns number line ∧ major = number

/-- `get_major` returns the number of a line that reads `<number> gsmtty` if there is one, and a
negative value otherwise. -/
def GetsMajor (procDevices : Option (List (List Char))) : Prop :=
  ∃ major, getMajor DRIVER_NAME procDevices = some major ∧
    ((∃ number, MajorOf procDevices number) → MajorOf procDevices major) ∧
    ((¬ ∃ number, MajorOf procDevices number) → major < 0)

/-- `cMuxOn` creates device nodes only with a number that the file assigns to the driver. -/
def NodesOfDriver (procDevices : Option (List (List Char))) : Prop :=
  ∀ (w : World) (d : BGS2CMux), w.procDevices = procDevices → ∀ nodeName major minor,
    .mknod nodeName major minor ∈ (cMuxOn w d).2.systemCalls →
      .mknod nodeName major minor ∈ d.systemCalls ∨ MajorOf procDevices major

/-- The number and the word of a line at which the loop stops. -/
def taken (line : List Char) : Option (Int × List Char) :=
  if strstr (text line) DRIVER_NAME then
    (scanInt (text line)).bind fun number => (scanWord number.2).bind fun device =>
      if number.1 = -1 ∧ device.1.length < DEVICE_SIZE then none else some (number.1, device.1)
  else none

/-- The file can be opened, and at the first line at which the loop stops, if there is one, the word
fits into `device`, and the line itself reads `<number> gsmtty` with a number that is an `int`, or a
later one reads so with the number that was taken, or that number is negative and no later line
reads so. -/
def FirstTaken (procDevices : Option (List (List Char))) : Prop :=
  ∃ lines, procDevices = some lines ∧ ∀ before line after major device,
    lines = before ++ line :: after → (∀ l ∈ before, taken l = none) →
    taken line = some (major, device) → device.length < DEVICE_SIZE ∧
      ((∃ number, Assigns number line ∧ number ≤ 2147483647) ∨
        (∃ line' ∈ after, ∃ number : ℕ, Assigns number line' ∧ major = number) ∨
        (major < 0 ∧ ∀ line' ∈ after, ∀ number, ¬ Assigns number line'))

/-! ## What `get_major` returns -/

theorem scanMajor_eq (line : List Char) :
    scanMajor DRIVER_NAME line (-1) = (taken line).elim (some (-1)) fun field =>
      if field.2.length < DEVICE_SIZE then some field.1 else none := by
  unfold scanMajor taken
  split
  · cases scanInt (text line) with
    | none => rfl
    | some number =>
      cases hdevice : scanWord number.2 with
      | none => simp [hdevice]
      | some device =>
        by_cases hnumber : number.1 = -1 <;> by_cases hfits : device.1.length < DEVICE_SIZE <;>
          simp [hdevice, hnumber, hfits]
  · rfl

theorem taken_ne {line device : List Char} {major : Int} (h : taken line = some (major, device))
    (hfits : device.length < DEVICE_SIZE) : major ≠ -1 := by
  unfold taken at h
  split at h
  · obtain ⟨number, -, hnumber⟩ := Option.bind_eq_some_iff.1 h
    obtain ⟨word, -, hword⟩ := Option.bind_eq_some_iff.1 hnumber
    split_ifs at hword with hskips
    cases hword
    exact fun hminus => hskips ⟨hminus, hfits⟩
  · cases h

theorem getMajorLoop_of_none {lines : List (List Char)} (h : ∀ l ∈ lines, taken l = none) :
    getMajorLoop DRIVER_NAME lines (-1) = some (-1) := by
  induction lines with
  | nil => rfl
  | cons line lines ih =>
    obtain ⟨hline, hlines⟩ := List.forall_mem_cons.1 h
    rw [getMajorLoop, if_pos rfl, scanMajor_eq, hline]
    exact ih hlines

theorem getMajorLoop_of_taken {before after : List (List Char)} {line device : List Char}
    {major : Int} (hbefore : ∀ l ∈ before, taken l = none)
    (h : taken line = some (major, device)) :
    getMajorLoop DRIVER_NAME (before ++ line :: after) (-1) =
      if device.length < DEVICE_SIZE then some major else none := by
  induction before with
  | nil =>
    rw [List.nil_append, getMajorLoop, if_pos rfl, scanMajor_eq, h, Option.elim_some]
    split_ifs with hfits
    · rw [Option.bind_some]
      cases after with
      | nil => rfl
      | cons line' after => exact if_neg (taken_ne h hfits)
    · rfl
  | cons l before ih =>
    obtain ⟨hl, hbefore⟩ := List.forall_mem_cons.1 hbefore
    rw [List.cons_append, getMajorLoop, if_pos rfl, scanMajor_eq, hl]
    exact ih hbefore

theorem driverName_chars : ∀ c ∈ DRIVER_NAME, c.toNat ≠ 0 ∧ isSpace c = false := by
  have hall : DRIVER_NAME.all (fun c => c.toNat ≠ 0 && !isSpace c) = true := by decide
  simpa using hall

/-- The loop stops at every line that assigns a number to the driver. -/
theorem taken_of_assigns {number : ℕ} {line : List Char} (h : Assigns number line) :
    taken line = some (toInt number, DRIVER_NAME) := by
  obtain ⟨blank, digits, gap, tail, rfl, hblank, hdigits, hne, hgap, hgapne, htail, rfl⟩ := h
  have htext : text (blank ++ (digits ++ (gap ++ (DRIVER_NAME ++ tail)))) =
      blank ++ (digits ++ (gap ++ (DRIVER_NAME ++ tail))) := by
    apply text_eq_self
    simp only [List.mem_append]
    rintro c (hc | hc | hc | hc | hc)
    · exact toNat_ne_zero_of_isSpace (hblank c hc)
    · have hcode := isDigit_iff.1 (hdigits c hc)
      omega
    · exact toNat_ne_zero_of_isSpace (hgap c hc)
    · exact (driverName_chars c hc).1
    · exact toNat_ne_zero_of_isSpace (htail c hc)
  have hname : strstr (blank ++ (digits ++ (gap ++ (DRIVER_NAME ++ tail)))) DRIVER_NAME = true :=
    decide_eq_true ⟨blank ++ digits ++ gap, tail, by simp⟩
  have hnumber : scanInt (blank ++ (digits ++ (gap ++ (DRIVER_NAME ++ tail)))) =
      some (toInt (numeral digits), gap ++ (DRIVER_NAME ++ tail)) := by
    apply scanInt_numeral hblank hdigits hne
    obtain ⟨c, gap', rfl⟩ := List.exists_cons_of_ne_nil hgapne
    intro c' hc'
    obtain rfl : c = c' := by simpa using hc'
    exact isDigit_of_isSpace (hgap c List.mem_cons_self)
  have hword : scanWord (gap ++ (DRIVER_NAME ++ tail)) = some (DRIVER_NAME, tail) :=
    scanWord_word hgap (fun c hc => by rw [(driverName_chars c hc).2]; rfl) (by decide)
      fun c hc => htail c (List.mem_of_mem_head? hc)
  have hpositive : toInt (numeral digits) ≠ -1 := by
    unfold toInt
    omega
  rw [taken, htext, if_pos hname, hnumber]
  simp [hword, hpositive]

theorem not_assigns_of_taken_none {line : List Char} (h : taken line = none) (number : ℕ) :
    ¬ Assigns number line := by
  intro hassigns
  rw [taken_of_assigns hassigns] at h
  cases h

/-- A number of the driver that is taken fits into an `int`. -/
theorem le_of_taken {number : ℕ} {line device : List Char} (h : Assigns number line)
    (htaken : taken line = some ((number : Int), device)) : number ≤ 2147483647 := by
  rw [taken_of_assigns h] at htaken
  have hnumber : toInt number = number := congrArg Prod.fst (Option.some.inj htaken)
  unfold toInt at hnumber
  omega

theorem eq_of_taken {number : ℕ} {line device : List Char} {major : Int}
    (h : Assigns number line) (hfits : number ≤ 2147483647)
    (htaken : taken line = some (major, device)) : major = number := by
  rw [taken_of_assigns h] at htaken
  have hmajor : toInt number = major := congrArg Prod.fst (Option.some.inj htaken)
  unfold toInt at hmajor
  omega

theorem majorOf_some {lines : List (List Char)} {major : Int} :
    MajorOf (some lines) major ↔
      ∃ line ∈ lines, ∃ number : ℕ, Assigns number line ∧ major = number :=
  ⟨fun ⟨_, h, hline⟩ => Option.some.inj h ▸ hline, fun h => ⟨lines, rfl, h⟩⟩

/-- What `get_major` returns is right if and only if the first line at which the loop stops, or what
follows it, says so. -/
theorem getsMajor_split_iff {before after : List (List Char)} {line device : List Char}
    {major : Int} (hbefore : ∀ l ∈ before, taken l = none)
    (htaken : taken line = some (major, device)) :
    GetsMajor (some (before ++ line :: after)) ↔ device.length < DEVICE_SIZE ∧
      ((∃ number, Assigns number line ∧ number ≤ 2147483647) ∨
        (∃ line' ∈ after, ∃ number : ℕ, Assigns number line' ∧ major = number) ∨
        (major < 0 ∧ ∀ line' ∈ after, ∀ number, ¬ Assigns number line')) := by
  have hloop : getMajorLoop DRIVER_NAME (before ++ line :: after) (-1) =
      if device.length < DEVICE_SIZE then some major else none :=
    getMajorLoop_of_taken hbefore htaken
  have hin : ∀ l ∈ before ++ line :: after, ∀ number, Assigns number l →
      l = line ∨ l ∈ after := by
    intro l hl number hassigns
    rcases List.mem_append.1 hl with hl | hl
    · exact absurd hassigns (not_assigns_of_taken_none (hbefore l hl) number)
    · exact List.mem_cons.1 hl
  constructor
  · rintro ⟨major', hmajor', hassigned, hnegative⟩
    obtain ⟨hfits, rfl⟩ : device.length < DEVICE_SIZE ∧ major = major' := by
      rw [getMajor, hloop] at hmajor'
      obtain ⟨hfits, hmajor⟩ := Option.ite_none_right_eq_some.1 hmajor'
      exact ⟨hfits, Option.some.inj hmajor⟩
    refine ⟨hfits, ?_⟩
    by_cases hany : ∃ number, MajorOf (some (before ++ line :: after)) number
    · obtain ⟨l, hl, number, hassigns, rfl⟩ := majorOf_some.1 (hassigned hany)
      rcases hin l hl number hassigns with rfl | hafter
      · exact .inl ⟨number, hassigns, le_of_taken hassigns htaken⟩
      · exact .inr (.inl ⟨l, hafter, number, hassigns, rfl⟩)
    · refine .inr (.inr ⟨hnegative hany, fun l hl number hassigns => hany ⟨number, ?_⟩⟩)
      exact majorOf_some.2 ⟨l, by simp [hl], number, hassigns, rfl⟩
  · rintro ⟨hfits, hlines⟩
    refine ⟨major, by rw [getMajor, hloop, if_pos hfits], ?_⟩
    rcases hlines with ⟨number, hassigns, hint⟩ | ⟨l, hl, number, hassigns, hmajor⟩ |
      ⟨hneg, hnone⟩
    · have hmajor : MajorOf (some (before ++ line :: after)) major :=
        majorOf_some.2 ⟨line, by simp, number, hassigns, eq_of_taken hassigns hint htaken⟩
      exact ⟨fun _ => hmajor, fun hnone => absurd ⟨_, hmajor⟩ hnone⟩
    · have hmajor : MajorOf (some (before ++ line :: after)) major :=
        majorOf_some.2 ⟨l, by simp [hl], number, hassigns, hmajor⟩
      exact ⟨fun _ => hmajor, fun hnone => absurd ⟨_, hmajor⟩ hnone⟩
    · refine ⟨?_, fun _ => hneg⟩
      rintro ⟨number', hnumber'⟩
      obtain ⟨l, hl, number, hassigns, -⟩ := majorOf_some.1 hnumber'
      rcases hin l hl number hassigns with rfl | hafter
      · -- the number of such a line is not negative
        rw [taken_of_assigns hassigns] at htaken
        have hmajor : toInt number = major := congrArg Prod.fst (Option.some.inj htaken)
        unfold toInt at hmajor
        omega
      · exact absurd hassigns (hnone l hafter number)

/-- Where the loop stops at no line, no line assigns a number. -/
theorem getsMajor_of_none {lines : List (List Char)} (h : ∀ l ∈ lines, taken l = none) :
    GetsMajor (some lines) := by
  refine ⟨-1, getMajorLoop_of_none h, ?_, fun _ => by decide⟩
  rintro ⟨major, hmajor⟩
  obtain ⟨line, hline, number, hassigns, -⟩ := majorOf_some.1 hmajor
  exact absurd hassigns (not_assigns_of_taken_none (h line hline) number)

theorem getsMajor_iff (procDevices : Option (List (List Char))) :
    GetsMajor procDevices ↔ FirstTaken procDevices := by
  cases procDevices with
  | none =>
    refine iff_of_false ?_ fun ⟨_, hlines, _⟩ => by cases hlines
    rintro ⟨major, hmajor, -, hnegative⟩
    cases hmajor
    have hneg := hnegative fun ⟨_, _, hlines, _⟩ => by cases hlines
    exact absurd hneg (by decide)
  | some lines =>
    constructor
    · rintro h
      refine ⟨lines, rfl, ?_⟩
      rintro before line after major device rfl hbefore htaken
      exact (getsMajor_split_iff hbefore htaken).1 h
    · rintro ⟨_, ⟨⟩, hfirst⟩
      cases hfound : lines.findSome? taken with
      | none => exact getsMajor_of_none (List.findSome?_eq_none_iff.1 hfound)
      | some field =>
        obtain ⟨before, line, after, rfl, htaken, hbefore⟩ :=
          List.findSome?_eq_some_iff.1 hfound
        exact (getsMajor_split_iff hbefore htaken).2
          (hfirst before line after _ _ rfl hbefore htaken)

/-! ## Which nodes are created -/

theorem mem_makeNodesLoop {w : World} {major : Int} {basename : String} {minors : List ℕ}
    {created : ℕ} {d : BGS2CMux} {nodeName : String} {major' minor' : Int}
    (h : .mknod nodeName major' minor' ∈
      (makeNodesLoop w major basename minors (created, d)).2.systemCalls) :
    .mknod nodeName major' minor' ∈ d.systemCalls ∨ major' = major := by
  induction minors generalizing created d with
  | nil => exact Or.inl h
  | cons minor minors ih =>
    rcases ih h with hcalls | hmajor
    · rcases List.mem_cons.1 hcalls with hnew | hold
      · cases hnew
        exact Or.inr rfl
      · exact Or.inl hold
    · exact Or.inr hmajor

/-- Only the last branch of `cMuxOn` leaves something behind. -/
theorem establish_eq (w : World) (d : BGS2CMux) :
    0 ≤ w.major ∧ (establish w d).2 = (makeNodes w w.major BASENAME_NODES NUM_NODES d).2 ∨
      (establish w d).2 = d := by
  let P : Result × BGS2CMux → Prop := fun q =>
    0 ≤ w.major ∧ q.2 = (makeNodes w w.major BASENAME_NODES NUM_NODES d).2 ∨ q.2 = d
  have herror : P (.muxError, d) := Or.inr rfl
  show P (establish w d)
  unfold establish
  iterate 10 refine iteInduction (fun _ => herror) fun _ => ?_
  exact iteInduction (fun _ => herror) fun hmajor => Or.inl ⟨not_lt.1 hmajor, rfl⟩

theorem mem_establish {w : World} {d : BGS2CMux} {nodeName : String} {major minor : Int}
    (h : .mknod nodeName major minor ∈ (establish w d).2.systemCalls) :
    .mknod nodeName major minor ∈ d.systemCalls ∨ 0 ≤ w.major ∧ major = w.major := by
  rcases establish_eq w d with ⟨hmajor, hnodes⟩ | hsame
  · rw [hnodes] at h
    exact (mem_makeNodesLoop h).imp_right fun heq => ⟨hmajor, heq⟩
  · rw [hsame] at h
    exact Or.inl h

theorem mem_cMuxOn {w : World} {d : BGS2CMux} {nodeName : String} {major minor : Int}
    (h : .mknod nodeName major minor ∈ (cMuxOn w d).2.systemCalls) :
    .mknod nodeName major minor ∈ d.systemCalls ∨ 0 ≤ w.major ∧ major = w.major := by
  have hcleanup : .mknod nodeName major minor ∈
      (.open_ SERIAL_PORT w.open_ :: (performEarlyCleanup w d).systemCalls : List SystemCall) →
      .mknod nodeName major minor ∈ d.systemCalls := by
    unfold performEarlyCleanup
    split <;> simp [removeNodes]
  unfold cMuxOn at h
  dsimp only at h
  split_ifs at h with hopen
  · exact Or.inl (hcleanup h)
  · exact (mem_establish h).imp_left hcleanup

theorem nodesOfDriver_of_getsMajor {procDevices : Option (List (List Char))}
    (h : GetsMajor procDevices) : NodesOfDriver procDevices := by
  rintro w d rfl nodeName major minor hcreated
  refine (mem_cMuxOn hcreated).imp_right ?_
  rintro ⟨hpositive, rfl⟩
  obtain ⟨major, hmajor, hassigned, hnegative⟩ := h
  rw [World.major, hmajor, Option.getD_some] at hpositive ⊢
  apply hassigned
  by_contra hnone
  have hneg := hnegative hnone
  omega

/-- `get_major` finds the driver's number, and `cMuxOn` creates nodes with no other, if and only if
the file can be opened and its first line at which the loop stops, or what follows it, says so. -/
theorem major_of_driver_iff (procDevices : Option (List (List Char))) :
    GetsMajor procDevices ∧ NodesOfDriver procDevices ↔ FirstTaken procDevices :=
  ⟨fun h => (getsMajor_iff procDevices).1 h.1, fun h =>
    have hmajor := (getsMajor_iff procDevices).2 h
    ⟨hmajor, nodesOfDriver_of_getsMajor hmajor⟩⟩

/-- Without the file the nodes would get the major number 1. -/
theorem unopened_major_one :
    ¬ ∀ procDevices, GetsMajor procDevices ∧ NodesOfDriver procDevices := by
  intro h
  obtain ⟨major, hmajor, -, hnegative⟩ := (h none).1
  cases hmajor
  have hneg := hnegative fun ⟨_, lines, hlines, _⟩ => by cases hlines
  exact absurd hneg (by decide)

end BGS2CMux

end SgmDevice
