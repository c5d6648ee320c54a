import Signpost.Proofs.Regex.Enclosed
import Signpost.Proofs.Regex.Sequences

/-!
# Splicing expressions

An expression that can be read alone is read in the same way behind other items
and before a parenthesis: it leaves its own items between what stands around it.
For this no bar may stand outside of its groups, since it would part what stands
before from what stands behind.  Neither may a change of flags, which would
reach beyond the expression; in a guarded text there is none.
-/

namespace Signpost.Regex

/-- Neither a bar nor a change of flags stands outside of the groups. -/
def Ast.isScoped : Ast → Bool
  | flags _ | alternation _ _ => false
  | repetition operand _ _ => operand.isScoped
  | concat items item => items.isScoped && item.isScoped
  | _ => true

def Ast.hasBar : Ast → Bool
  | alternation _ _ => true
  | _ => false

theorem Frame.close_of_hasBar {frame : Frame} (h : frame.close.hasBar = false) :
    frame.branches = [] ∧ frame.close = Ast.ofItems frame.items := by
  obtain ⟨items, branches⟩ := frame
  cases branches with
  | nil => exact ⟨rfl, rfl⟩
  | cons branch earlier => cases h

/-! ## Steps on the outermost frame -/

def bottomFrame : Frame → List OpenGroup → Frame
  | frame, [] => frame
  | _, group :: groups => bottomFrame group.outer groups

def bottomVerbose : Bool → List OpenGroup → Bool
  | verbose, [] => verbose
  | _, group :: groups => bottomVerbose group.outerVerbose groups

def Frame.onto (base : List Ast) (frame : Frame) : Frame :=
  { frame with items := frame.items ++ base }

def framesOnto (base : List Ast) : Frame → List OpenGroup →
    Frame × List OpenGroup
  | frame, [] => (frame.onto base, [])
  | frame, ⟨kind, outer, verbose⟩ :: groups =>
    let below := framesOnto base outer groups
    (frame, ⟨kind, below.1, verbose⟩ :: below.2)

namespace ParseState

variable {state after result final : ParseState} {lexeme : Lexeme}
    {base : List Ast}

def bottom (state : ParseState) : Frame := bottomFrame state.frame state.groups

def outside (state : ParseState) : Bool :=
  bottomVerbose state.verbose state.groups

def onto (base : List Ast) (state : ParseState) : ParseState :=
  let below := framesOnto base state.frame state.groups
  { state with frame := below.1, groups := below.2 }

theorem hasOperand_onto (h : state.frame.hasOperand = true) :
    (state.onto base).frame.hasOperand = true := by
  obtain ⟨⟨items, branches⟩, groups, verbose, captures, names⟩ := state
  cases groups with
  | cons group groups => exact h
  | nil =>
      cases items with
      | nil => cases h
      | cons item items => cases item <;> exact h

theorem framesOnto_push (base : List Ast) (frame : Frame) (item : Ast)
    (groups : List OpenGroup) : framesOnto base (frame.push item) groups =
      ((framesOnto base frame groups).1.push item,
        (framesOnto base frame groups).2) := by
  cases groups <;> rfl

theorem step_onto (hstep : state.step lexeme = .ok after)
    (hbar : lexeme = .bar → state.groups ≠ [])
    (hquantifier : ∀ bounds greedy, lexeme = .quantifier bounds greedy →
      state.frame.hasOperand = true) :
    (state.onto base).step lexeme = .ok (after.onto base) := by
  obtain ⟨frame, groups, verbose, captures, names⟩ := state
  cases lexeme with
  | primitive item | bracketed negated inner | setFlags changes =>
      cases hstep
      simp only [step, push, onto, framesOnto_push]
  | quantifier bounds greedy =>
      cases hstep
      obtain ⟨items, branches⟩ := frame
      cases groups with
      | cons group groups => cases items <;> rfl
      | nil =>
          cases items with
          | nil => cases hquantifier bounds greedy rfl
          | cons item items => rfl
  | openCapture name =>
      cases name with
      | none =>
          cases hstep
          rfl
      | some name =>
          simp only [step, openCapture] at hstep ⊢
          split at hstep
          · cases hstep
          · next hfresh =>
              cases hstep
              exact if_neg hfresh
  | openFlagged changes =>
      cases hstep
      rfl
  | close =>
      cases groups with
      | nil => cases hstep
      | cons group groups =>
          cases hstep
          simp only [step, closeGroup, onto, framesOnto, framesOnto_push]
  | bar =>
      cases hstep
      cases groups with
      | nil => exact absurd rfl (hbar rfl)
      | cons group groups => rfl

/--
What a step can do to the outermost frame unless it branches or changes flags
there.
-/
inductive Grows : Frame → Frame → Prop
  | same (frame : Frame) : Grows frame frame
  | push (frame : Frame) {item : Ast} : item.isScoped →
      Grows frame (frame.push item)
  | quantify (item : Ast) (items branches : List Ast) (bounds : Bounds)
      (greedy : Bool) :
      Grows ⟨item :: items, branches⟩
        ⟨.repetition item bounds greedy :: items, branches⟩

theorem grows_push {frame : Frame} {item : Ast} (hitem : item.isScoped)
    (groups : List OpenGroup) :
    Grows (bottomFrame frame groups)
      (bottomFrame (frame.push item) groups) := by
  cases groups with
  | nil => exact .push frame hitem
  | cons group groups => exact .same _

theorem Grows.branches_eq {frame frame' : Frame} (h : Grows frame frame') :
    frame'.branches = frame.branches := by
  cases h <;> rfl

theorem Grows.isScoped {frame frame' : Frame} (h : Grows frame frame')
    (hitems : ∀ item ∈ frame.items, item.isScoped) :
      ∀ item ∈ frame'.items, item.isScoped := by
  cases h with
  | same => exact hitems
  | push _ hitem => exact List.forall_mem_cons.mpr ⟨hitem, hitems⟩
  | quantify item items =>
      obtain ⟨hitem, hearlier⟩ := List.forall_mem_cons.mp hitems
      exact List.forall_mem_cons.mpr ⟨hitem, hearlier⟩

theorem step_bottom (hstep : state.step lexeme = .ok after) :
    (state.groups = [] ∧ ∃ changes, lexeme = .setFlags changes ∧
        after.bottom = state.bottom.push (.flags changes)) ∨
      after.outside = state.outside ∧
        ((state.groups = [] ∧ lexeme = .bar ∧ after.bottom = state.bottom.bar) ∨
          (lexeme = .bar → state.groups ≠ []) ∧
          Grows state.bottom after.bottom) := by
  obtain ⟨frame, groups, verbose, captures, names⟩ := state
  cases lexeme with
  | primitive item =>
      cases hstep
      exact .inr ⟨rfl, .inr ⟨nofun, grows_push (by cases item <;> rfl) groups⟩⟩
  | bracketed negated inner =>
      cases hstep
      exact .inr ⟨rfl, .inr ⟨nofun, grows_push rfl groups⟩⟩
  | quantifier bounds greedy =>
      cases hstep
      obtain ⟨items, branches⟩ := frame
      cases items with
      | nil => exact .inr ⟨rfl, .inr ⟨nofun, .same _⟩⟩
      | cons item items =>
          cases groups with
          | nil => exact .inr ⟨rfl, .inr ⟨nofun, .quantify ..⟩⟩
          | cons group groups => exact .inr ⟨rfl, .inr ⟨nofun, .same _⟩⟩
  | openCapture name =>
      cases name with
      | none =>
          cases hstep
          exact .inr ⟨rfl, .inr ⟨nofun, .same _⟩⟩
      | some name =>
          simp only [step, openCapture] at hstep
          split at hstep
          · cases hstep
          · cases hstep
            exact .inr ⟨rfl, .inr ⟨nofun, .same _⟩⟩
  | openFlagged changes =>
      cases hstep
      exact .inr ⟨rfl, .inr ⟨nofun, .same _⟩⟩
  | setFlags changes =>
      cases hstep
      cases groups with
      | nil => exact .inl ⟨rfl, changes, rfl, rfl⟩
      | cons group groups => exact .inr ⟨rfl, .inr ⟨nofun, .same _⟩⟩
  | close =>
      cases groups with
      | nil => cases hstep
      | cons group groups =>
          cases hstep
          exact .inr ⟨rfl, .inr ⟨nofun, grows_push rfl groups⟩⟩
  | bar =>
      cases hstep
      cases groups with
      | nil => exact .inr ⟨rfl, .inl ⟨rfl, rfl, rfl⟩⟩
      | cons group groups => exact .inr ⟨rfl, .inr ⟨fun _ => nofun, .same _⟩⟩

theorem step_last (hstep : state.step lexeme = .ok after)
    (hgroups : after.groups = [])
    (hverbose : after.verbose = false) (hinside : state.verbose = true)
    (houtside : state.outside = false) : lexeme = .close := by
  obtain ⟨frame, groups, verbose, captures, names⟩ := state
  cases hinside
  cases groups with
  | nil => cases houtside
  | cons group groups =>
      cases lexeme with
      | close => rfl
      | primitive | bracketed | openFlagged | setFlags | bar =>
          cases hstep
          cases hgroups
      | quantifier bounds greedy =>
          obtain ⟨items, branches⟩ := frame
          cases items <;> cases hstep <;> cases hgroups
      | openCapture name =>
          cases name with
          | none =>
              cases hstep
              cases hgroups
          | some name =>
              simp only [step, openCapture] at hstep
              split at hstep
              · cases hstep
              · cases hstep
                cases hgroups

/-! ## Reading to the end -/

/-- The text is read to its end, one lexeme after the other. -/
inductive Reads : ParseState → List Char → ParseState → Prop
  | done {state : ParseState} {text : List Char} :
      skip state.verbose text = [] → Reads state text state
  | next {state after result : ParseState} {text rest left : List Char}
      {c : Char}
      {lexeme : Lexeme} : skip state.verbose text = c :: rest →
      Lexeme.next state.verbose state.frame.hasOperand (c :: rest) =
        .ok (lexeme, left) →
      state.step lexeme = .ok after → Reads after left result →
      Reads state text result

theorem Reads.readAll_eq {text : List Char} (h : Reads state text result) :
    state.readAll text = .ok result := by
  induction h with
  | done hskip => exact readAll_of_skip_nil hskip
  | next hskip hnext hstep _ ih =>
      rw [readAll_of_next hskip hnext, hstep]
      exact ih

private theorem reads_of_readAll (bound : Nat) :
    ∀ {state : ParseState} {text : List Char},
    text.length ≤ bound → state.readAll text = .ok result →
    Reads state text result := by
  induction bound with
  | zero =>
      intro state text hbound h
      cases List.length_eq_zero_iff.mp (Nat.le_zero.mp hbound)
      rw [readAll_of_skip_nil (skip_nil _)] at h
      cases h
      exact .done (skip_nil _)
  | succ bound ih =>
      intro state text hbound h
      cases hskip : skip state.verbose text with
      | nil =>
          rw [readAll_of_skip_nil hskip] at h
          cases h
          exact .done hskip
      | cons c rest =>
          rw [readAll_of_skip_cons hskip] at h
          obtain ⟨⟨lexeme, left⟩, hnext, h⟩ := bind_eq_ok_iff.mp h
          obtain ⟨after, hstep, h⟩ := bind_eq_ok_iff.mp h
          have hlength := (skip_suffix state.verbose text).length_le
          have hleft := (next_leaves _ _ _ _ _ hnext).length_le
          rw [hskip, List.length_cons] at hlength
          exact .next hskip hnext hstep (ih (by omega) h)

theorem reads_iff {text : List Char} :
    Reads state text result ↔ state.readAll text = .ok result :=
  ⟨Reads.readAll_eq, reads_of_readAll text.length (Nat.le_refl _)⟩

theorem Reads.eq_of_nil (h : Reads state [] result) : result = state := by
  cases h with
  | done => rfl
  | next hskip =>
      rw [skip_nil] at hskip
      cases hskip

theorem Reads.branches_eq {text : List Char} (h : Reads state text result)
    (hresult : result.bottom.branches = []) : state.bottom.branches = [] := by
  induction h with
  | done => exact hresult
  | next _ _ hstep _ ih =>
      have hafter := ih hresult
      rcases step_bottom hstep with ⟨-, _, -, heq⟩ |
        ⟨-, ⟨-, -, heq⟩ | ⟨-, hgrows⟩⟩
      · rwa [heq] at hafter
      · rw [heq] at hafter
        cases hafter
      · rwa [hgrows.branches_eq] at hafter

/--
Behind a change of flags, wherever it might be read, a question mark follows.
-/
def Guarded (text : List Char) : Prop :=
  ∀ inside, '(' :: inside <:+ text → ∀ changes rest,
    groupHead false inside = .ok (.setFlags changes, rest) →
    rest.head? = some '?'

theorem Guarded.mono {text rest : List Char} (h : Guarded text)
    (hrest : rest <:+ text) :
    Guarded rest :=
  fun inside hinside => h inside (hinside.trans hrest)

private theorem Reads.hasOperand_of_question {rest : List Char}
    (h : Reads state ('?' :: rest) result) : state.frame.hasOperand = true := by
  have hskip : skip state.verbose ('?' :: rest) = '?' :: rest := by
    cases state.verbose <;> rfl
  cases h with
  | done hnil =>
      rw [hskip] at hnil
      cases hnil
  | next hcons hnext =>
      rw [hskip] at hcons
      cases hcons
      simp only [Lexeme.next, Lexeme.next.uncounted] at hnext
      split at hnext
      · next hoperand => exact hoperand
      · cases hnext

private theorem Reads.ne_setFlags {text left : List Char}
    {c : Char} {hasOperand : Bool}
    (hguarded : Guarded (c :: text)) (h : Reads after left result)
    (hnext : Lexeme.next false hasOperand (c :: text) = .ok (lexeme, left))
    (hstep : state.step lexeme = .ok after) (changes : FlagChanges) :
    lexeme ≠ .setFlags changes := by
  rintro rfl
  rcases next_cases hnext with ⟨rfl, hhead⟩ | ⟨-, heq, -⟩ |
    ⟨-, heq⟩ | ⟨-, _, _, heq⟩ |
    ⟨_, heq⟩ | ⟨_, _, heq⟩
  · obtain ⟨rest, rfl⟩ :=
      List.head?_eq_some_iff.mp (hguarded text (List.suffix_refl _) _ _ hhead)
    cases hstep
    cases h.hasOperand_of_question
  all_goals cases heq

theorem Reads.outside_step {text rest left : List Char} {c : Char}
    (hguarded : Guarded text) (houtside : state.outside = false)
    (hskip : skip state.verbose text = c :: rest)
    (hnext : Lexeme.next state.verbose state.frame.hasOperand (c :: rest) =
      .ok (lexeme, left)) (hstep : state.step lexeme = .ok after)
    (h : Reads after left result) : Guarded left ∧ after.outside = false ∧
      ((state.groups = [] ∧ lexeme = .bar ∧ after.bottom = state.bottom.bar) ∨
        (lexeme = .bar → state.groups ≠ []) ∧
        Grows state.bottom after.bottom) := by
  have hrest : c :: rest <:+ text := hskip ▸ skip_suffix state.verbose text
  have hleft : left <:+ rest := next_leaves _ _ _ _ _ hnext
  refine ⟨hguarded.mono (hleft.trans (suffix_of_cons_suffix hrest)), ?_⟩
  rcases step_bottom hstep with ⟨hgroups, changes, hflags, -⟩ | ⟨hsame, hbottom⟩
  · have hverbose : state.verbose = false := by
      rwa [outside, hgroups] at houtside
    rw [hverbose] at hnext
    exact absurd hflags
      (h.ne_setFlags (hguarded.mono hrest) hnext hstep changes)
  · exact ⟨hsame.trans houtside, hbottom⟩

theorem Reads.scoped {text : List Char} (h : Reads state text result)
    (hguarded : Guarded text) (houtside : state.outside = false)
    (hitems : ∀ item ∈ state.bottom.items, item.isScoped) :
    result.outside = false ∧ ∀ item ∈ result.bottom.items, item.isScoped := by
  induction h with
  | done => exact ⟨houtside, hitems⟩
  | next hskip hnext hstep hrest ih =>
      obtain ⟨hleft, hafter, hbottom⟩ :=
        hrest.outside_step hguarded houtside hskip hnext hstep
      refine ih hleft hafter ?_
      rcases hbottom with ⟨-, -, heq⟩ | ⟨-, hgrows⟩
      · rw [heq]
        exact fun item hitem => nomatch hitem
      · exact hgrows.isScoped hitems

/-! ## Texts and items spliced -/

theorem Reads.onto {text tail : List Char} {mark : Char}
    (h : Reads state text result)
    (hmark : IsParenthesis mark) (hguarded : Guarded text)
    (houtside : state.outside = false) (hgroups : result.groups = [])
    (hbranches : result.bottom.branches = [])
    (hbehind : Reads (result.onto base) (mark :: tail) final) :
    Reads (state.onto base) (text ++ mark :: tail) final := by
  induction h with
  | @done state text hskip =>
      have hverbose : state.verbose = false := by rwa [outside, hgroups]
        at houtside
      rw [hverbose] at hskip
      cases hskip
      exact hbehind
  | @next state after result text rest left c lexeme hskip
      hnext hstep hrest ih =>
      obtain ⟨hleft, hafter, hbottom⟩ :=
        hrest.outside_step hguarded houtside hskip hnext hstep
      have hcarry : Lexeme.next state.verbose state.frame.hasOperand
          (c :: rest ++ mark :: tail) = .ok (lexeme, left ++ mark :: tail) := by
        -- under `x` only the end of a group can be the last lexeme, and it
        -- reads no further
        by_cases hend : state.verbose = true ∧ left = []
        · obtain ⟨hinside, rfl⟩ := hend
          cases hrest.eq_of_nil
          have hverbose : after.verbose = false := by rwa [outside, hgroups]
            at hafter
          cases step_last hstep hgroups hverbose hinside houtside
          obtain ⟨rfl, rfl⟩ := close_of_next hnext
          rfl
        · exact next_carries hmark _ c rest lexeme left hnext
            fun hinside hnil =>
            hend ⟨hinside, hnil⟩
      have hbar : lexeme = .bar → state.groups ≠ [] := by
        rcases hbottom with ⟨-, -, heq⟩ | ⟨hbar, -⟩
        · have hnil := hrest.branches_eq hbranches
          rw [heq] at hnil
          cases hnil
        · exact hbar
      refine .next (skip_append hskip)
        (next_of_operand hasOperand_onto hcarry) ?_
        (ih hleft hafter hgroups hbranches hbehind)
      exact step_onto hstep hbar fun bounds greedy hlexeme =>
        operand_of_next (hlexeme ▸ hnext)

end ParseState

theorem Ast.elaborate_of_isScoped {ast : Ast} : ∀ {settings after node},
    ast.isScoped → ast.elaborate settings = .ok (node, after) →
    after = settings := by
  induction ast with
  | empty | assertion =>
      rintro settings _ _ - ⟨⟩
      rfl
  | flags | alternation =>
      intro settings after node h
      cases h
  | literal | dot | letter | property =>
      intro settings after node _ helaborate
      obtain ⟨_, -, ⟨⟩⟩ := bind_eq_ok_iff.mp helaborate
      rfl
  | bracketed negated inner =>
      intro settings after node _ helaborate
      obtain ⟨_, -, hset⟩ := bind_eq_ok_iff.mp helaborate
      obtain ⟨_, -, ⟨⟩⟩ := bind_eq_ok_iff.mp hset
      rfl
  | repetition operand bounds greedy ih =>
      intro settings after node h helaborate
      obtain ⟨_, hbody, ⟨⟩⟩ := bind_eq_ok_iff.mp helaborate
      exact ih h hbody
  | group kind inner =>
      intro settings after node _ helaborate
      cases kind with
      | capture index name =>
          obtain ⟨_, -, ⟨⟩⟩ := bind_eq_ok_iff.mp helaborate
          rfl
      | flagged changes =>
          obtain ⟨_, -, ⟨⟩⟩ := bind_eq_ok_iff.mp helaborate
          rfl
  | concat first second ihfirst ihsecond =>
      intro settings after node h helaborate
      simp only [isScoped, Bool.and_eq_true] at h
      obtain ⟨_, hfirst, hrest⟩ := bind_eq_ok_iff.mp helaborate
      obtain ⟨_, hsecond, ⟨⟩⟩ := bind_eq_ok_iff.mp hrest
      exact (ihsecond h.2 hsecond).trans (ihfirst h.1 hfirst)

theorem exists_becomes {settings after : Settings} {items : List Ast} :
    ∀ {node : Node},
    (∀ item ∈ items, item.isScoped) →
    (Ast.ofItems items).elaborate settings = .ok (node, after) →
    ∃ nodes, List.Forall₂ (Becomes settings) items nodes ∧
      node = Node.ofItems nodes := by
  induction items generalizing after with
  | nil =>
      rintro _ _ ⟨⟩
      exact ⟨[], .nil, rfl⟩
  | cons item earlier ih =>
      intro node h helaborate
      obtain ⟨hitem, hearlier⟩ := List.forall_mem_cons.mp h
      cases earlier with
      | nil =>
          cases item.elaborate_of_isScoped hitem helaborate
          exact ⟨[node], .cons helaborate .nil, rfl⟩
      | cons previous earlier =>
          rw [Ast.ofItems, Ast.elaborate] at helaborate
          · obtain ⟨⟨first, middle⟩, hfirst, hrest⟩ :=
              bind_eq_ok_iff.mp helaborate
            obtain ⟨⟨second, _⟩, hsecond, ⟨⟩⟩ := bind_eq_ok_iff.mp hrest
            obtain ⟨nodes, hnodes, rfl⟩ := ih hearlier hfirst
            -- what is scoped hands on the settings as it got them
            have hsame : middle = settings := by
              have hall := becomes_ofItems hnodes
              rw [Becomes, hfirst] at hall
              cases hall
              rfl
            subst hsame
            cases item.elaborate_of_isScoped hitem hsecond
            refine ⟨second :: nodes, .cons hsecond hnodes, ?_⟩
            cases hnodes
            rfl
          · simp

end Signpost.Regex
