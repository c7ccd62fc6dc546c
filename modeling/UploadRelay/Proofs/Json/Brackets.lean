import UploadRelay.Proofs.Json.Spelling
-- Where a scan of a document stands: in how many brackets, and whether in a string. Brackets
-- outside strings stand in pairs, and a string ends at the first quote that no backslash
-- escapes. So no object ends with another document behind a colon: at the colon its own
-- bracket is still open, and that document leaves it open; or the colon stands in a string,
-- and behind it one of the two scans is in a string when the other one is not.

namespace UploadRelay.Json

open CodePoint Text

-- A backslash stands in strings only; outside of them it breaks the document.
inductive Mode where
  | outside
  | inside
  | escaped
  | broken
deriving DecidableEq

structure Place where
  mode : Mode
  depth : Int

def Place.after (p : Place) (c : CodePoint) : Place :=
  match p.mode with
  | .outside =>
    if c.val = 34 then ⟨.inside, p.depth⟩
    else if c.val = 92 then ⟨.broken, p.depth⟩
    else if c.val = 91 ∨ c.val = 123 then ⟨.outside, p.depth + 1⟩
    else if c.val = 93 ∨ c.val = 125 then ⟨.outside, p.depth - 1⟩
    else p
  | .inside =>
    if c.val = 34 then ⟨.outside, p.depth⟩
    else if c.val = 92 then ⟨.escaped, p.depth⟩
    else p
  | .escaped => ⟨.inside, p.depth⟩
  | .broken => p

def Place.through (p : Place) (t : Text) : Place := t.foldl Place.after p

theorem Place.through_append (p : Place) (front back : Text) : p.through (front ++ back) = (p.through front).through back :=
  List.foldl_append

-- A text behind which a scan stands where it stood before, and before that never in fewer
-- brackets.
structure Keeps (mode : Mode) (t : Text) : Prop where
  closes : ∀ depth, Place.through ⟨mode, depth⟩ t = ⟨mode, depth⟩
  within : ∀ depth front, front <+: t → depth ≤ (Place.through ⟨mode, depth⟩ front).depth

theorem prefix_append_cases {front t u : Text} (leads : front <+: t ++ u) :
    front <+: t ∨ ∃ more, front = t ++ more ∧ more <+: u := by
  obtain ⟨back, whole⟩ := leads
  rcases List.append_eq_append_iff.mp whole with ⟨more, longer, -⟩ | ⟨more, longer, rest⟩
  · exact Or.inl ⟨more, longer.symm⟩
  · exact Or.inr ⟨more, longer, ⟨back, rest.symm⟩⟩

theorem keeps_nil (mode : Mode) : Keeps mode [] where
  closes := fun depth => rfl
  within := by
    intro depth front leads
    rw [List.prefix_nil.mp leads]
    exact Int.le_refl depth

theorem Keeps.append {mode : Mode} {t u : Text} (first : Keeps mode t) (second : Keeps mode u) : Keeps mode (t ++ u) where
  closes := by
    intro depth
    rw [Place.through_append, first.closes, second.closes]
  within := by
    intro depth front leads
    rcases prefix_append_cases leads with early | ⟨more, rfl, late⟩
    · exact first.within depth front early
    · rw [Place.through_append, first.closes]
      exact second.within depth more late

theorem Keeps.enclosed {outer inner : Mode} (rise : Int) {opener closer : CodePoint} {t : Text} (keeps : Keeps inner t)
    (rises : 0 ≤ rise) (opens : ∀ depth, Place.after ⟨outer, depth⟩ opener = ⟨inner, depth + rise⟩)
    (closes : ∀ depth, Place.after ⟨inner, depth + rise⟩ closer = ⟨outer, depth⟩) :
    Keeps outer (opener :: t ++ [closer]) where
  closes := by
    intro depth
    rw [Place.through_append]
    show Place.through ((Place.after ⟨outer, depth⟩ opener).through t) [closer] = _
    rw [opens, keeps.closes]
    exact closes depth
  within := by
    intro depth front leads
    rcases prefix_append_cases leads with early | ⟨more, rfl, late⟩
    · rcases List.prefix_cons_iff.mp early with rfl | ⟨rest, rfl, behind⟩
      · exact Int.le_refl depth
      · show depth ≤ ((Place.after ⟨outer, depth⟩ opener).through rest).depth
        rw [opens]
        exact Int.le_trans (by omega) (keeps.within (depth + rise) rest behind)
    · rw [Place.through_append]
      show depth ≤ (((Place.after ⟨outer, depth⟩ opener).through t).through more).depth
      rw [opens, keeps.closes]
      rcases List.prefix_cons_iff.mp late with rfl | ⟨rest, rfl, behind⟩
      · show depth ≤ depth + rise
        omega
      · rw [List.prefix_nil.mp behind]
        show depth ≤ (Place.after ⟨inner, depth + rise⟩ closer).depth
        rw [closes]

theorem keeps_one {mode : Mode} {c : CodePoint} (stays : ∀ depth, Place.after ⟨mode, depth⟩ c = ⟨mode, depth⟩) :
    Keeps mode [c] where
  closes := stays
  within := by
    intro depth front leads
    rcases List.prefix_cons_iff.mp leads with rfl | ⟨rest, rfl, behind⟩
    · exact Int.le_refl depth
    · rw [List.prefix_nil.mp behind]
      show depth ≤ (Place.after ⟨mode, depth⟩ c).depth
      rw [stays]

theorem Keeps.cons {mode : Mode} {c : CodePoint} {t : Text} (first : Keeps mode [c]) (rest : Keeps mode t) :
    Keeps mode (c :: t) := first.append rest

theorem after_plain {c : CodePoint} (plain : isMark c = false) {mode : Mode} (reads : mode = .outside ∨ mode = .inside)
    (depth : Int) : Place.after ⟨mode, depth⟩ c = ⟨mode, depth⟩ := by
  simp only [isMark, List.contains_eq_mem, List.mem_cons, List.not_mem_nil, or_false, decide_eq_false_iff_not, not_or] at plain
  rcases reads with rfl | rfl <;> simp [Place.after, plain]

theorem Bare.keeps {t : Text} (bare : Bare t) {mode : Mode} (reads : mode = .outside ∨ mode = .inside) : Keeps mode t := by
  induction t with
  | nil => exact keeps_nil mode
  | cons c t ih =>
    have first := keeps_one (after_plain (bare c List.mem_cons_self).2 reads)
    exact first.cons (ih fun d member => bare d (List.mem_cons_of_mem c member))

theorem keeps_escape (e : CodePoint) : Keeps .inside [CodePoint.ofChar '\\', e] where
  closes := fun depth => rfl
  within := by
    intro depth front leads
    rcases List.prefix_cons_iff.mp leads with rfl | ⟨rest, rfl, behind⟩
    · exact Int.le_refl depth
    · rcases List.prefix_cons_iff.mp behind with rfl | ⟨more, rfl, last⟩
      · exact Int.le_refl depth
      · rw [List.prefix_nil.mp last]
        exact Int.le_refl depth

theorem keeps_unit (n : Nat) : Keeps .inside (escapedUnitText n) :=
  (keeps_escape (CodePoint.ofChar 'u')).append ((bare_hex 4 n).keeps (Or.inr rfl))

theorem keeps_writtenOne (c : CodePoint) : Keeps .inside (writtenOne c) := by
  generalize written : writtenOne c = spelling
  cases written ▸ writtenOne_spelled c with
  | plain notQuote notSlash =>
    apply keeps_one
    intro depth
    simp [Place.after, notQuote, notSlash]
  | escape => exact keeps_escape _
  | unit => exact keeps_unit _
  | pair => exact (keeps_unit _).append (keeps_unit _)

theorem keeps_writtenString (t : Text) : Keeps .outside (writtenString t) := by
  have inside : Keeps .inside (t.flatMap writtenOne) := by
    induction t with
    | nil => exact keeps_nil .inside
    | cons c t ih =>
      rw [List.flatMap_cons]
      exact (keeps_writtenOne c).append ih
  refine inside.enclosed 0 (Int.le_refl 0) (fun depth => ?_) (fun depth => ?_)
  · rw [Int.add_zero]
    rfl
  · rw [Int.add_zero]
    rfl

theorem keeps_comma : Keeps .outside ", " := (show Bare ", " by decide).keeps (Or.inl rfl)

theorem keeps_writtenElements {xs : List Json} (each : ∀ x ∈ xs, Keeps .outside (written x)) :
    Keeps .outside (writtenElements xs) := by
  induction xs with
  | nil => exact keeps_nil .outside
  | cons x more ih =>
    have first := each x List.mem_cons_self
    have rest := ih fun y member => each y (List.mem_cons_of_mem x member)
    match more with
    | [] => exact first
    | y :: others => exact (first.append keeps_comma).append rest

theorem keeps_writtenMembers {ms : List (Text × Json)} (each : ∀ m ∈ ms, Keeps .outside (written m.2)) :
    Keeps .outside (writtenMembers ms) := by
  induction ms with
  | nil => exact keeps_nil .outside
  | cons m more ih =>
    have first := each m List.mem_cons_self
    have rest := ih fun n member => each n (List.mem_cons_of_mem m member)
    have opened := (keeps_writtenString m.1).append ((show Bare ": " by decide).keeps (Or.inl rfl))
    match more with
    | [] => exact opened.append first
    | n :: others => exact ((opened.append first).append keeps_comma).append rest

theorem Keeps.bracketed {opener closer : CodePoint} {t : Text} (keeps : Keeps .outside t)
    (opens : opener.val = 91 ∨ opener.val = 123) (closes : closer.val = 93 ∨ closer.val = 125) :
    Keeps .outside (opener :: t ++ [closer]) := by
  refine keeps.enclosed 1 (by decide) (fun depth => ?_) (fun depth => ?_)
  · rcases opens with value | value <;> simp [Place.after, value]
  · rcases closes with value | value <;> simp [Place.after, value]

theorem written_keeps (v : Json) : Keeps .outside (written v) := by
  induction v using nested with
  | null => exact (show Bare "null" by decide).keeps (Or.inl rfl)
  | bool b => cases b <;> exact Bare.keeps (by decide) (Or.inl rfl)
  | int n => exact (bare_ofInt n).keeps (Or.inl rfl)
  | float x => exact (bare_writtenDouble x).keeps (Or.inl rfl)
  | str t => exact keeps_writtenString t
  | arr xs ih => exact (keeps_writtenElements ih).bracketed (Or.inl rfl) (Or.inl rfl)
  | obj ms ih => exact (keeps_writtenMembers ih).bracketed (Or.inr rfl) (Or.inr rfl)
  | foreign f => exact keeps_writtenString f.shown

theorem Place.broken_after {p : Place} (broken : p.mode = .broken) (c : CodePoint) : (p.after c).mode = .broken := by
  simp only [after, broken]

theorem Place.broken_through {p : Place} (broken : p.mode = .broken) (t : Text) : (p.through t).mode = .broken := by
  induction t generalizing p with
  | nil => exact broken
  | cons c t ih => exact ih (broken_after broken c)

-- Of two scans one is in a string and the other one is not, as long as neither broke off.
def Opposed (p q : Place) : Prop :=
  p.mode = .broken ∨ q.mode = .broken ∨ p.mode = .inside ∧ q.mode = .outside ∨ p.mode = .outside ∧ q.mode = .inside

theorem Opposed.symm {p q : Place} (opposed : Opposed p q) : Opposed q p := by
  unfold Opposed at opposed ⊢
  tauto

-- A quote turns both around, a backslash breaks the scan that is outside.
theorem opposed_after {p q : Place} (reads : p.mode = .inside) (skips : q.mode = .outside) (c : CodePoint) :
    Opposed (p.after c) (q.after c) := by
  by_cases quote : c.val = 34
  · exact Or.inr (Or.inr (Or.inr ⟨by simp [Place.after, reads, quote], by simp [Place.after, skips, quote]⟩))
  · by_cases slash : c.val = 92
    · exact Or.inr (Or.inl (by simp [Place.after, skips, slash]))
    · refine Or.inr (Or.inr (Or.inl ⟨by simp [Place.after, reads, quote, slash], ?_⟩))
      simp only [Place.after, skips, if_neg quote, if_neg slash]
      split
      · rfl
      · split
        · rfl
        · exact skips

theorem Opposed.after {p q : Place} (opposed : Opposed p q) (c : CodePoint) : Opposed (p.after c) (q.after c) := by
  rcases opposed with broken | broken | ⟨reads, skips⟩ | ⟨skips, reads⟩
  · exact Or.inl (Place.broken_after broken c)
  · exact Or.inr (Or.inl (Place.broken_after broken c))
  · exact opposed_after reads skips c
  · exact (opposed_after reads skips c).symm

theorem Opposed.through {p q : Place} (opposed : Opposed p q) (t : Text) : Opposed (p.through t) (q.through t) := by
  induction t generalizing p q with
  | nil => exact opposed
  | cons c t ih => exact ih (opposed.after c)

theorem object_open {ms : Members} {front back : Text} (whole : written (.obj ms) = front ++ back) (begun : front ≠ [])
    (more : back ≠ []) : 1 ≤ (Place.through ⟨.outside, 0⟩ front).depth := by
  have leads : front <+: CodePoint.ofNat 123 :: writtenMembers ms := by
    have shape : (CodePoint.ofNat 123 :: writtenMembers ms) ++ [CodePoint.ofNat 125] = front ++ back := whole
    rcases List.append_eq_append_iff.mp shape with ⟨rest, longer, last⟩ | ⟨rest, longer, -⟩
    · rcases List.append_eq_singleton_iff.mp last.symm with ⟨none, -⟩ | ⟨-, none⟩
      · exact ⟨[], by rw [longer, none, List.append_nil, List.append_nil]⟩
      · exact absurd none more
    · exact ⟨rest, longer.symm⟩
  rcases List.prefix_cons_iff.mp leads with none | ⟨rest, rfl, behind⟩
  · exact absurd none begun
  · exact (keeps_writtenMembers fun m _ => written_keeps m.2).within 1 rest behind

theorem after_colon (p : Place) : (p.after (CodePoint.ofChar ':')).mode ≠ .escaped := by
  obtain ⟨mode, depth⟩ := p
  cases mode <;> exact Mode.noConfusion

theorem no_document_behind_colon (ms : Members) (v : Json) (front : Text) :
    written (.obj ms) ≠ front ++ CodePoint.ofChar ':' :: written v := by
  intro whole
  have split : written (.obj ms) = (front ++ [CodePoint.ofChar ':']) ++ written v := by simp [whole]
  have some : written v ≠ [] := by
    obtain ⟨c, rest, shape, -⟩ := written_opens v
    rw [shape]
    exact List.cons_ne_nil c rest
  have deep := object_open split (by simp) some
  have ends : Place.through ⟨.outside, 0⟩ (written (.obj ms)) = ⟨.outside, 0⟩ := (written_keeps (.obj ms)).closes 0
  rw [split, Place.through_append] at ends
  have colon : (Place.through ⟨.outside, 0⟩ (front ++ [CodePoint.ofChar ':'])).mode ≠ .escaped := by
    rw [Place.through_append]
    exact after_colon _
  generalize Place.through ⟨.outside, 0⟩ (front ++ [CodePoint.ofChar ':']) = p at deep ends colon
  obtain ⟨mode, depth⟩ := p
  cases mode with
  | outside =>
    rw [(written_keeps v).closes] at ends
    have zero : depth = 0 := congrArg Place.depth ends
    rw [zero] at deep
    exact absurd deep (by decide)
  | inside =>
    have opposed : Opposed ⟨.inside, depth⟩ ⟨.outside, 0⟩ := Or.inr (Or.inr (Or.inl ⟨rfl, rfl⟩))
    have still := opposed.through (written v)
    rw [ends, (written_keeps v).closes] at still
    rcases still with broken | broken | ⟨reads, -⟩ | ⟨-, reads⟩
    · cases broken
    · cases broken
    · cases reads
    · cases reads
  | escaped => exact colon rfl
  | broken =>
    have broken := Place.broken_through (p := ⟨.broken, depth⟩) rfl (written v)
    rw [ends] at broken
    cases broken

end UploadRelay.Json
