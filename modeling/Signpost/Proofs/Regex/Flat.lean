import Signpost.Proofs.Regex.Enclosed
import Signpost.Regex.Elaborate

/-!
# Expressions without parentheses

A text without parentheses opens no group and changes no flag.  Whatever group
it is read in, it leaves the same items there as when it is read alone.
-/

namespace Signpost.Regex

def Ast.isFlat : Ast → Bool
  | flags _ | group _ _ => false
  | repetition operand _ _ => operand.isFlat
  | concat first second | alternation first second =>
    first.isFlat && second.isFlat
  | _ => true

def Node.groupFree : Node → Bool
  | group _ _ => false
  | seq first second | alt first second => first.groupFree && second.groupFree
  | loop body _ _ _ => body.groupFree
  | _ => true

theorem Ast.isFlat_ofItems {items : List Ast}
    (h : ∀ item ∈ items, item.isFlat) : (Ast.ofItems items).isFlat := by
  induction items with
  | nil => rfl
  | cons item earlier ih =>
      cases earlier with
      | nil => exact h item (by simp)
      | cons previous earlier =>
          have hearlier := ih fun item hitem => h item (by simp [hitem])
          simp [ofItems, isFlat, hearlier, h item (by simp)]

theorem Ast.isFlat_ofBranches {branches : List Ast}
    (h : ∀ branch ∈ branches, branch.isFlat) :
    (Ast.ofBranches branches).isFlat := by
  induction branches with
  | nil => rfl
  | cons branch earlier ih =>
      cases earlier with
      | nil => exact h branch (by simp)
      | cons previous earlier =>
          have hearlier := ih fun branch hbranch => h branch (by simp [hbranch])
          simp [ofBranches, isFlat, hearlier, h branch (by simp)]

theorem Ast.groupNames_of_isFlat {ast : Ast} (h : ast.isFlat) :
    ast.groupNames = [] := by
  induction ast with
  | repetition operand bounds greedy ih => exact ih h
  | concat first second ihfirst ihsecond =>
      simp only [isFlat, Bool.and_eq_true] at h
      simp [groupNames, ihfirst h.1, ihsecond h.2]
  | alternation first second ihfirst ihsecond =>
      simp only [isFlat, Bool.and_eq_true] at h
      simp [groupNames, ihfirst h.1, ihsecond h.2]
  | group kind inner => cases h
  | _ => rfl

private theorem Node.groupFree_repeated {body : Node} (h : body.groupFree)
    (bounds : Bounds) (greedy : Bool) :
    (body.repeated bounds greedy).groupFree := by
  unfold Node.repeated
  split
  · rfl
  · exact h
  · cases greedy <;> simp [groupFree, h]
  · exact h

theorem Ast.elaborate_of_isFlat {ast : Ast} : ∀ {settings after node},
    ast.isFlat → ast.elaborate settings = .ok (node, after) →
    after = settings ∧ node.groupFree := by
  induction ast with
  | empty | assertion =>
      rintro settings _ _ - ⟨⟩
      exact ⟨rfl, rfl⟩
  | flags | group =>
      intro settings after node h
      cases h
  | literal | dot | letter | property =>
      intro settings after node _ helaborate
      obtain ⟨_, -, ⟨⟩⟩ := bind_eq_ok_iff.mp helaborate
      exact ⟨rfl, rfl⟩
  | bracketed negated inner =>
      intro settings after node _ helaborate
      obtain ⟨_, -, hset⟩ := bind_eq_ok_iff.mp helaborate
      obtain ⟨_, -, ⟨⟩⟩ := bind_eq_ok_iff.mp hset
      exact ⟨rfl, rfl⟩
  | repetition operand bounds greedy ih =>
      intro settings after node h helaborate
      obtain ⟨result, hbody, ⟨⟩⟩ := bind_eq_ok_iff.mp helaborate
      obtain ⟨hsame, hfree⟩ := ih h hbody
      exact ⟨hsame, Node.groupFree_repeated hfree _ _⟩
  | concat first second ihfirst ihsecond =>
      intro settings after node h helaborate
      simp only [isFlat, Bool.and_eq_true] at h
      obtain ⟨result, hfirst, hrest⟩ := bind_eq_ok_iff.mp helaborate
      obtain ⟨result', hsecond, ⟨⟩⟩ := bind_eq_ok_iff.mp hrest
      obtain ⟨hsame, hfree⟩ := ihfirst h.1 hfirst
      obtain ⟨hsame', hfree'⟩ := ihsecond h.2 hsecond
      exact ⟨hsame'.trans hsame, by simp [Node.groupFree, hfree, hfree']⟩
  | alternation first second ihfirst ihsecond =>
      intro settings after node h helaborate
      simp only [isFlat, Bool.and_eq_true] at h
      obtain ⟨result, hfirst, hrest⟩ := bind_eq_ok_iff.mp helaborate
      obtain ⟨result', hsecond, ⟨⟩⟩ := bind_eq_ok_iff.mp hrest
      obtain ⟨hsame, hfree⟩ := ihfirst h.1 hfirst
      obtain ⟨hsame', hfree'⟩ := ihsecond h.2 hsecond
      exact ⟨hsame'.trans hsame, by simp [Node.groupFree, hfree, hfree']⟩

def Lexeme.isFlat : Lexeme → Bool
  | primitive _ | bracketed _ _ | quantifier _ _ | bar => true
  | _ => false

theorem next_isFlat {hasOperand : Bool} {c : Char} {text rest : List Char}
    {lexeme : Lexeme} (hopen : c ≠ '(') (hclose : c ≠ ')')
    (h : Lexeme.next false hasOperand (c :: text) = .ok (lexeme, rest)) :
    lexeme.isFlat := by
  rcases next_cases h with ⟨hc, -⟩ | ⟨hc, -, -⟩ | ⟨-, rfl⟩ |
    ⟨-, _, _, rfl⟩ | ⟨_, rfl⟩ |
    ⟨_, _, rfl⟩
  · exact absurd hc hopen
  · exact absurd hc hclose
  · rfl
  · rfl
  · rfl
  · rfl

namespace Frame

/-- What a lexeme that neither opens nor closes a group does to the items. -/
def read (frame : Frame) : Lexeme → Frame
  | .primitive item => frame.push item.toAst
  | .bracketed negated inner => frame.push (.bracketed negated inner)
  | .quantifier bounds greedy =>
    match frame.items with
    | [] => frame
    | item :: items =>
      { frame with items := .repetition item bounds greedy :: items }
  | .bar => frame.bar
  | _ => frame

structure IsFlat (frame : Frame) : Prop where
  items : ∀ item ∈ frame.items, item.isFlat
  branches : ∀ branch ∈ frame.branches, branch.isFlat

theorem isFlat_empty : IsFlat {} := ⟨by simp, by simp⟩

variable {frame : Frame}

theorem IsFlat.push (h : IsFlat frame) {item : Ast} (hitem : item.isFlat) :
    IsFlat (frame.push item) := by
  refine ⟨fun other hmem => ?_, h.branches⟩
  rcases List.mem_cons.mp hmem with rfl | hmem
  · exact hitem
  · exact h.items other hmem

theorem IsFlat.bar (h : IsFlat frame) : IsFlat frame.bar := by
  refine ⟨by simp [Frame.bar], fun branch hmem => ?_⟩
  rcases List.mem_cons.mp hmem with rfl | hmem
  · exact Ast.isFlat_ofItems h.items
  · exact h.branches branch hmem

theorem IsFlat.read (h : IsFlat frame) (lexeme : Lexeme) :
    IsFlat (frame.read lexeme) := by
  cases lexeme with
  | primitive item => exact h.push (by cases item <;> rfl)
  | bracketed negated inner => exact h.push rfl
  | quantifier bounds greedy =>
      unfold Frame.read
      cases hitems : frame.items with
      | nil => exact h
      | cons item items =>
          refine ⟨fun other hmem => ?_, h.branches⟩
          rcases List.mem_cons.mp hmem with rfl | hmem
          · exact h.items item (by simp [hitems])
          · exact h.items other (by simp [hitems, hmem])
  | bar => exact h.bar
  | _ => exact h

theorem IsFlat.close (h : IsFlat frame) : frame.close.isFlat := by
  refine Ast.isFlat_ofBranches fun branch hmem => ?_
  rcases List.mem_cons.mp hmem with rfl | hmem
  · exact Ast.isFlat_ofItems h.items
  · exact h.branches branch hmem

end Frame

namespace ParseState

theorem step_of_isFlat {lexeme : Lexeme} (h : lexeme.isFlat)
    (state : ParseState) :
    state.step lexeme =
      .ok { state with frame := state.frame.read lexeme } := by
  cases lexeme with
  | primitive item => rfl
  | bracketed negated inner => rfl
  | quantifier bounds greedy =>
      obtain ⟨⟨items, branches⟩, groups, verbose, captures, names⟩ := state
      cases items <;> rfl
  | bar => rfl
  | _ => cases h

private theorem readAll_enclosed (bound : Nat) : ∀ {text : List Char}
    {inner outer result : ParseState}, text.length ≤ bound →
    '(' ∉ text → ')' ∉ text →
    inner.verbose = false → outer.verbose = false →
    inner.frame = outer.frame → inner.frame.IsFlat →
    inner.readAll text = .ok result → ∃ frame : Frame,
      result = { inner with frame } ∧ frame.IsFlat ∧
      ∀ tail, outer.readAll (text ++ ')' :: tail) =
        { outer with frame }.readAll (')' :: tail) := by
  -- a lexeme may take many characters: the induction is on a length bound
  induction bound with
  | zero =>
      intro text inner outer result hbound _ _ hinner _ hframe hflat hread
      cases List.length_eq_zero_iff.mp (Nat.le_zero.mp hbound)
      rw [readAll_nil hinner] at hread
      cases hread
      exact ⟨inner.frame, rfl, hflat, fun tail => by rw [hframe]; rfl⟩
  | succ bound ih =>
      intro text inner outer result hbound hopen hclose hinner houter hframe
        hflat hread
      cases text with
      | nil =>
          exact ih (Nat.zero_le _) hopen hclose hinner houter hframe hflat hread
      | cons c text =>
          rw [readAll_cons hinner] at hread
          obtain ⟨⟨lexeme, rest⟩, hnext, hread⟩ := bind_eq_ok_iff.mp hread
          obtain ⟨after, hstep, hread⟩ := bind_eq_ok_iff.mp hread
          have hc : c ≠ '(' := fun h => hopen (by simp [h])
          have hc' : c ≠ ')' := fun h => hclose (by simp [h])
          have hlexeme := next_isFlat hc hc' hnext
          rw [step_of_isFlat hlexeme] at hstep
          cases hstep
          have hrest : rest <:+ text := next_leaves _ _ _ _ _ hnext
          have hlength := hrest.length_le
          simp only [List.length_cons] at hbound
          obtain ⟨frame, hresult, hflat', hwithin⟩ := @ih rest
            { inner with frame := inner.frame.read lexeme }
            { outer with frame := outer.frame.read lexeme } result (by omega)
            (fun h => hopen (List.mem_cons_of_mem _ (hrest.subset h)))
            (fun h => hclose (List.mem_cons_of_mem _ (hrest.subset h)))
            hinner houter (by rw [hframe]) (hflat.read lexeme) hread
          refine ⟨frame, hresult, hflat', fun tail => ?_⟩
          have hcarries :=
            @next_carries false tail _ (.inr rfl) _ c text _ _ hnext
            (by simp)
          rw [hframe] at hcarries
          rw [List.cons_append, readAll_cons houter, ← List.cons_append,
            hcarries]
          change (outer.step lexeme >>= fun state =>
            state.readAll (rest ++ ')' :: tail)) = _
          rw [step_of_isFlat hlexeme]
          exact hwithin tail

theorem readAll_close {state : ParseState} (hverbose : state.verbose = false)
    (tail : List Char) : state.readAll (')' :: tail) =
      (state.closeGroup >>= fun state => state.readAll tail) := by
  rw [readAll_cons hverbose]
  rfl

variable {text : List Char} {ast : Ast} (hparse : parse text = .ok ast)
  (hopen : '(' ∉ text) (hclose : ')' ∉ text)

include hparse hopen hclose

theorem readAll_of_parse {outer : ParseState} (hverbose : outer.verbose = false)
    (hframe : outer.frame = {}) : ∃ frame : Frame, frame.close = ast ∧
      frame.IsFlat ∧ ∀ tail, outer.readAll (text ++ ')' :: tail) =
        { outer with frame }.readAll (')' :: tail) := by
  obtain ⟨state, hread, hrest⟩ := bind_eq_ok_iff.mp hparse
  obtain ⟨found, hfinish, hdepth⟩ := bind_eq_ok_iff.mp hrest
  obtain ⟨frame, rfl, hflat, hwithin⟩ := readAll_enclosed text.length
    (Nat.le_refl _) hopen hclose rfl hverbose hframe.symm
      Frame.isFlat_empty hread
  refine ⟨frame, ?_, hflat, hwithin⟩
  cases hfinish
  split at hdepth
  · exact Except.ok.inj hdepth
  · cases hdepth

theorem isFlat_of_parse : ast.isFlat := by
  obtain ⟨frame, rfl, hflat, -⟩ := readAll_of_parse hparse hopen hclose
    (show ParseState.verbose {} = false from rfl) rfl
  exact hflat.close

theorem readAll_closing {opened : ParseState} {kind : GroupKind}
    {before : Frame} {groups : List OpenGroup}
    (hverbose : opened.verbose = false) (hframe : opened.frame = {})
    (hgroups : opened.groups = ⟨kind, before, false⟩ :: groups)
    (tail : List Char) : opened.readAll (text ++ ')' :: tail) =
      { opened with
        frame := before.push (.group kind ast), groups }.readAll tail := by
  obtain ⟨frame, rfl, -, hread⟩ :=
    readAll_of_parse hparse hopen hclose hverbose hframe
  obtain ⟨_, _, verbose, captures, names⟩ := opened
  cases hverbose
  cases hgroups
  rw [hread tail, readAll_close rfl]
  rfl

end ParseState

end Signpost.Regex
