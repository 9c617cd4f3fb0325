import Coinslot.Lib.Wildcards
import Coinslot.Scanner.Robots

/-!
# Whose rules decide, and how

The standard reads a robots file so: the rules of all groups that name the agent are for it, or those of the `*`
groups if none does (`namedGroups`); of the rules that apply to a path the longest decides, one that allows before
one that forbids (`Allows`). In a rule a star stands for any characters, a `$` at the end for the end of the path,
and every other character for itself (`Applies`).

The code takes names more loosely: a group whose name is part of the agent's is for it, and the longest such name
decides (`ReadFor`); the names in a file may so leave out a version. Apart from rules that end in `$` it then decides
as the standard does (`robots_decide`).
-/

namespace Coinslot

open Wildcards List

/-! ## The standard -/

def Applies (rule path : List Char) : Prop :=
  rule ≠ [] ∧ if rule.getLast? = some '$' then Fits '*' rule.dropLast path else Opens '*' rule path

/-- Whether rules allow a path: to each that forbids it there is one that allows it, and is as long. -/
def Allows (rules : Set RobotsRule) (path : String) : Prop :=
  ∀ forbidding ∈ rules, forbidding.allow = false → Applies forbidding.rule.toList path.toList →
    ∃ allowing ∈ rules, allowing.allow = true ∧ Applies allowing.rule.toList path.toList ∧
      codeUnits forbidding.rule.toList ≤ codeUnits allowing.rule.toList

def rulesFor (groups : List RobotsGroup) (isFor : RobotsGroup → Prop) : Set RobotsRule :=
  {rule | ∃ group ∈ groups, isFor group ∧ rule ∈ group.rules}

/-- Whether a group is for an agent: it names the agent, or it is for all and none names the agent. The names of a
file were written in lower case when it was read. -/
def NamedFor (groups : List RobotsGroup) (normalized : List Char) (group : RobotsGroup) : Prop :=
  String.ofList normalized ∈ group.agents ∨
    "*" ∈ group.agents ∧ ∀ other ∈ groups, String.ofList normalized ∉ other.agents

/-! ## The names the code takes for the agent's -/

/-- Whether a name is for an agent: it is part of the agent's, or it is for all. -/
def IsPart (normalized : List Char) (agent : String) : Prop := agent = "*" ∨ agent.toList <:+: normalized

def closeness (agent : String) : Nat := if agent = "*" then 0 else codeUnits agent.toList

/-- Whether no name of some groups that is for an agent says more than this one. -/
def StandsClosest (groups : List RobotsGroup) (normalized : List Char) (agent : String) : Prop :=
  IsPart normalized agent ∧
    ∀ group ∈ groups, ∀ other ∈ group.agents, IsPart normalized other → closeness other ≤ closeness agent

def ReadFor (groups : List RobotsGroup) (normalized : List Char) (group : RobotsGroup) : Prop :=
  ∃ agent ∈ group.agents, StandsClosest groups normalized agent

theorem holds_iff {part : List Char} : ∀ {text : List Char}, holds part text = true ↔ part <:+: text
  | [] => by rw [holds, List.isEmpty_iff, infix_nil]
  | c :: text => by
    rw [holds, Bool.or_eq_true, isPrefixOf_iff_prefix, infix_cons_iff, holds_iff]

theorem foldl_max_spec {α : Type} [LinearOrder α] (first : α) (values : List α) :
    values.foldl max first ∈ first :: values ∧ ∀ value ∈ first :: values, value ≤ values.foldl max first :=
  max?_eq_some_iff.1 max?_cons'

variable {normalized : List Char} {groups : List RobotsGroup} {group : RobotsGroup}

theorem specificity_spec (group : RobotsGroup) :
    (∀ agent ∈ group.agents, IsPart normalized agent → (closeness agent : Int) ≤ group.specificity normalized) ∧
      (group.specificity normalized = -1 ∨
        ∃ agent ∈ group.agents, IsPart normalized agent ∧ group.specificity normalized = closeness agent) := by
  obtain ⟨hmem, hmax⟩ := foldl_max_spec (-1) (group.agents.map fun agent =>
    if agent = "*" then (0 : Int) else if holds agent.toList normalized then (codeUnits agent.toList : Int) else -1)
  constructor
  · intro agent hagent hpart
    refine Int.le_trans (Int.le_of_eq ?_) (hmax _ (mem_cons_of_mem _ (mem_map_of_mem hagent)))
    rcases hpart with rfl | hpart
    · rfl
    · unfold closeness
      split
      · rfl
      · rw [if_pos (holds_iff.2 hpart)]
  · rcases mem_cons.1 hmem with hnone | hmem
    · exact .inl hnone
    · obtain ⟨agent, hagent, heq⟩ := mem_map.1 hmem
      by_cases hstar : agent = "*"
      · refine .inr ⟨agent, hagent, .inl hstar, heq.symm.trans ?_⟩
        rw [if_pos hstar, closeness, if_pos hstar]
        rfl
      · rw [if_neg hstar] at heq
        by_cases hpart : holds agent.toList normalized = true
        · refine .inr ⟨agent, hagent, .inr (holds_iff.1 hpart), heq.symm.trans ?_⟩
          rw [if_pos hpart, closeness, if_neg hstar]
        · rw [if_neg hpart] at heq
          exact .inl heq.symm

theorem picked_iff (hgroup : group ∈ groups) :
    (group.specificity normalized = (groups.map (·.specificity normalized)).foldl max (-1) &&
      0 ≤ group.specificity normalized) = true ↔ ReadFor groups normalized group := by
  obtain ⟨hmem, hmax⟩ := foldl_max_spec (-1) (groups.map (·.specificity normalized))
  have hle : ∀ other ∈ groups, ∀ agent ∈ other.agents, IsPart normalized agent →
      (closeness agent : Int) ≤ (groups.map (·.specificity normalized)).foldl max (-1) :=
    fun other hother agent hagent hpart => Int.le_trans ((specificity_spec other).1 agent hagent hpart)
      (hmax _ (mem_cons_of_mem _ (mem_map_of_mem hother)))
  rw [Bool.and_eq_true, decide_eq_true_eq, decide_eq_true_eq]
  constructor
  · rintro ⟨heq, hpos⟩
    have hsome : group.specificity normalized ≠ -1 := by omega
    obtain ⟨agent, hagent, hpart, hclose⟩ := (specificity_spec group).2.resolve_left hsome
    refine ⟨agent, hagent, hpart, fun other hother name hname hpart' => ?_⟩
    have := hle other hother name hname hpart'
    omega
  · rintro ⟨agent, hagent, hpart, hclosest⟩
    have hspec := (specificity_spec group).1 agent hagent hpart
    have hgroupLe := hmax _ (mem_cons_of_mem _ (mem_map_of_mem hgroup))
    rcases mem_cons.1 hmem with hnone | hmem
    · omega
    · obtain ⟨other, hother, hspecOther⟩ := mem_map.1 hmem
      rcases (@specificity_spec normalized other).2 with hnone | ⟨name, hname, hpart', hclose⟩
      · omega
      · have := hclosest other hother name hname hpart'
        omega

/-! ## The rules the code reads as the standard does -/

theorem someLeft_iff {passes : List Char → Bool} : ∀ {text : List Char}, someLeft passes text = true ↔
      ∃ skipped rest, text = skipped ++ rest ∧ (∀ c ∈ skipped, endsLine c = false) ∧ passes rest = true
  | [] => by
    constructor
    · exact fun h => ⟨[], [], rfl, fun _ hc => absurd hc not_mem_nil, h⟩
    · rintro ⟨skipped, rest, htext, -, hpasses⟩
      obtain ⟨rfl, rfl⟩ := append_eq_nil_iff.1 htext.symm
      exact hpasses
  | c :: text => by
    rw [someLeft, Bool.or_eq_true, Bool.and_eq_true, Bool.not_eq_true', someLeft_iff]
    constructor
    · rintro (hpasses | ⟨hc, skipped, rest, rfl, hskipped, hpasses⟩)
      · exact ⟨[], c :: text, rfl, fun _ hc => absurd hc not_mem_nil, hpasses⟩
      · exact ⟨c :: skipped, rest, rfl, forall_mem_cons.2 ⟨hc, hskipped⟩, hpasses⟩
    · rintro ⟨skipped, rest, htext, hskipped, hpasses⟩
      cases skipped with
      | nil => exact .inl (htext ▸ hpasses)
      | cons d skipped =>
        obtain ⟨rfl, rfl⟩ := List.cons.inj htext
        obtain ⟨hc, hskipped⟩ := forall_mem_cons.1 hskipped
        exact .inr ⟨hc, skipped, rest, rfl, hskipped, hpasses⟩

theorem beginsAs_iff : ∀ {rule path : List Char}, (∀ c ∈ path, endsLine c = false) →
    (beginsAs rule path = true ↔ Opens '*' rule path)
  | [], _, _ => by simp [beginsAs]
  | c :: rule, path, hline => by
    by_cases hstar : c = '*'
    · subst hstar
      rw [beginsAs, someLeft_iff, opens_wild_iff]
      constructor
      · rintro ⟨skipped, rest, rfl, -, hbegins⟩
        exact ⟨skipped, rest, rfl, (beginsAs_iff fun c hc => hline c (mem_append_right _ hc)).1 hbegins⟩
      · rintro ⟨skipped, rest, rfl, hopens⟩
        exact ⟨skipped, rest, rfl, fun c hc => hline c (mem_append_left _ hc),
          (beginsAs_iff fun c hc => hline c (mem_append_right _ hc)).2 hopens⟩
    · cases path with
      | nil =>
        rw [beginsAs]
        · exact iff_of_false Bool.false_ne_true (not_opens_nil hstar)
        · exact fun h => hstar h
      | cons d path =>
        rw [beginsAs, opens_self_iff hstar, Bool.and_eq_true, decide_eq_true_eq,
          beginsAs_iff fun c hc => hline c (mem_cons_of_mem _ hc)]
        exact fun h => hstar h

/-- Whether a rule that ends in `$` is out of play for a path: it fits neither with the `$` for the end nor with the
`$` for itself. -/
def OutOfPlay (rule path : List Char) : Prop := ¬ Fits '*' rule.dropLast path ∧ ¬ Opens '*' rule path

theorem ruleMatches_iff {path rule : String} (hline : ∀ c ∈ path.toList, endsLine c = false)
    (hend : rule.toList.getLast? = some '$' → OutOfPlay rule.toList path.toList) :
    ruleMatches path rule = true ↔ Applies rule.toList path.toList := by
  have hempty : rule ≠ "" ↔ rule.toList ≠ [] := by rw [ne_eq, ne_eq, String.toList_eq_nil_iff]
  rw [ruleMatches, Bool.and_eq_true, decide_eq_true_eq, hempty, beginsAs_iff hline, Applies]
  by_cases hlast : rule.toList.getLast? = some '$'
  · rw [if_pos hlast, iff_false_intro (hend hlast).1, iff_false_intro (hend hlast).2]
  · rw [if_neg hlast]

/-! ## What they decide -/

theorem longest_allow_iff {matching : List RobotsRule} :
    (matching = [] || (matching.filter fun rule => codeUnits rule.rule.toList =
        (matching.map fun rule => codeUnits rule.rule.toList).foldl max 0).any (·.allow)) = true ↔
      ∀ forbidding ∈ matching, forbidding.allow = false → ∃ allowing ∈ matching, allowing.allow = true ∧
          codeUnits forbidding.rule.toList ≤ codeUnits allowing.rule.toList := by
  obtain ⟨hmem, hmax⟩ := foldl_max_spec 0 (matching.map fun rule => codeUnits rule.rule.toList)
  have hle : ∀ rule ∈ matching, codeUnits rule.rule.toList ≤
      (matching.map fun rule => codeUnits rule.rule.toList).foldl max 0 := fun rule hrule =>
    hmax _ (mem_cons_of_mem _ (mem_map_of_mem hrule))
  generalize (matching.map fun rule => codeUnits rule.rule.toList).foldl max 0 = longest at hmem hle
  rw [Bool.or_eq_true, decide_eq_true_eq, any_eq_true]
  simp only [mem_filter, decide_eq_true_eq]
  constructor
  · rintro (rfl | ⟨allowing, ⟨hin, hlongest⟩, hallow⟩) forbidding hforbidding -
    · exact absurd hforbidding not_mem_nil
    · exact ⟨allowing, hin, hallow, hlongest ▸ hle forbidding hforbidding⟩
  · intro h
    refine or_iff_not_imp_left.2 fun hne => ?_
    obtain ⟨rule, hrule, hlongest⟩ : ∃ rule ∈ matching, codeUnits rule.rule.toList = longest := by
      obtain ⟨some, hsome⟩ := exists_mem_of_ne_nil _ hne
      rcases mem_cons.1 hmem with hzero | hmem
      · exact ⟨some, hsome, by have := hle some hsome; omega⟩
      · exact mem_map.1 hmem
    cases hallow : rule.allow with
    | true => exact ⟨rule, ⟨hrule, hlongest⟩, hallow⟩
    | false =>
      obtain ⟨allowing, hin, hallow, hlong⟩ := h rule hrule hallow
      have := hle allowing hin
      exact ⟨allowing, ⟨hin, by omega⟩, hallow⟩

/-- The rules of the groups that are read for an agent decide, the longest first, and one that allows before one
that forbids. -/
theorem isPathAllowed_iff {lowerCase : List Char → List Char} {parsed : RobotsParseResult} {userAgent path : String}
    (hline : ∀ c ∈ path.toList, endsLine c = false)
    (hend : ∀ rule ∈ rulesFor parsed.groups (ReadFor parsed.groups (lowerCase userAgent.toList)),
      rule.rule.toList.getLast? = some '$' → OutOfPlay rule.rule.toList path.toList) :
    isPathAllowed lowerCase parsed userAgent path = true ↔
      Allows (rulesFor parsed.groups (ReadFor parsed.groups (lowerCase userAgent.toList))) path := by
  rw [isPathAllowed, longest_allow_iff]
  have hmatching : ∀ rule, rule ∈ ((parsed.groups.filter fun group =>
        group.specificity (lowerCase userAgent.toList) =
          (parsed.groups.map (·.specificity (lowerCase userAgent.toList))).foldl max (-1) &&
        0 ≤ group.specificity (lowerCase userAgent.toList)).flatMap (·.rules)).filter
          (fun rule => ruleMatches path rule.rule) ↔
      rule ∈ rulesFor parsed.groups (ReadFor parsed.groups (lowerCase userAgent.toList)) ∧
        Applies rule.rule.toList path.toList := by
    intro rule
    rw [mem_filter, mem_flatMap]
    have hrules : (∃ group ∈ parsed.groups.filter fun group => group.specificity (lowerCase userAgent.toList) =
          (parsed.groups.map (·.specificity (lowerCase userAgent.toList))).foldl max (-1) &&
        0 ≤ group.specificity (lowerCase userAgent.toList), rule ∈ group.rules) ↔
        rule ∈ rulesFor parsed.groups (ReadFor parsed.groups (lowerCase userAgent.toList)) := by
      refine exists_congr fun group => ?_
      rw [mem_filter, and_assoc]
      exact and_congr_right fun hgroup => and_congr_left' (picked_iff hgroup)
    rw [hrules]
    exact and_congr_right fun hrule => ruleMatches_iff hline (hend rule hrule)
  simp only [hmatching, Allows]
  constructor
  · intro h forbidding hforbidding hallow hforbids
    obtain ⟨allowing, ⟨hin, happ⟩, hallow', hlong⟩ := h forbidding ⟨hforbidding, hforbids⟩ hallow
    exact ⟨allowing, hin, hallow', happ, hlong⟩
  · rintro h forbidding ⟨hforbidding, hforbids⟩ hallow
    obtain ⟨allowing, hin, hallow', happ, hlong⟩ := h forbidding hforbidding hallow hforbids
    exact ⟨allowing, ⟨hin, happ⟩, hallow', hlong⟩

/-! ## Where the code reads the groups the standard does -/

theorem codeUnits_append (text text' : List Char) : codeUnits (text ++ text') = codeUnits text + codeUnits text' := by
  rw [codeUnits, codeUnits, codeUnits, map_append, sum_append]

theorem codeUnits_pos {text : List Char} (h : text ≠ []) : 0 < codeUnits text := by
  cases text with
  | nil => exact absurd rfl h
  | cons c text =>
    rw [codeUnits, map_cons, sum_cons]
    split <;> omega

theorem eq_of_infix_of_codeUnits {part text : List Char} (hpart : part <:+: text)
    (hlong : codeUnits text ≤ codeUnits part) : part = text := by
  obtain ⟨before, after, rfl⟩ := hpart
  rw [codeUnits_append, codeUnits_append] at hlong
  have hbefore : before = [] := by
    by_contra hne
    have := codeUnits_pos hne
    omega
  have hafter : after = [] := by
    by_contra hne
    have := codeUnits_pos hne
    omega
  rw [hbefore, hafter, nil_append, append_nil]

theorem readFor_of_named (hne : normalized ≠ []) (hstar : normalized ≠ ['*'])
    (hnamed : ∃ other ∈ groups, String.ofList normalized ∈ other.agents) :
    ReadFor groups normalized group ↔ String.ofList normalized ∈ group.agents := by
  have hself : closeness (String.ofList normalized) = codeUnits normalized := by
    rw [closeness, if_neg, String.toList_ofList]
    exact fun h => hstar (by rw [← String.toList_ofList (l := normalized), h]; rfl)
  have hle : ∀ agent, IsPart normalized agent → closeness agent ≤ codeUnits normalized := by
    rintro agent (rfl | ⟨before, after, hpart⟩)
    · exact Nat.zero_le _
    · unfold closeness
      split
      · exact Nat.zero_le _
      · rw [← hpart, codeUnits_append, codeUnits_append]
        omega
  constructor
  · rintro ⟨agent, hagent, hpart, hclosest⟩
    obtain ⟨other, hother, hin⟩ := hnamed
    have hlong := hclosest other hother _ hin (.inr (String.toList_ofList ▸ infix_rfl))
    rw [hself] at hlong
    have hpos := codeUnits_pos hne
    have hnot : agent ≠ "*" := by
      rintro rfl
      rw [closeness, if_pos rfl] at hlong
      omega
    rw [closeness, if_neg hnot] at hlong
    rw [← eq_of_infix_of_codeUnits (hpart.resolve_left hnot) hlong, String.ofList_toList]
    exact hagent
  · intro hagent
    refine ⟨_, hagent, .inr (String.toList_ofList ▸ infix_rfl), fun _ _ other _ hpart => ?_⟩
    rw [hself]
    exact hle other hpart

theorem readFor_of_alone (hgroup : group ∈ groups)
    (halone : ∀ other ∈ groups, ∀ agent ∈ other.agents, agent.toList <:+: normalized → agent = "*") :
    ReadFor groups normalized group ↔ "*" ∈ group.agents := by
  have hstar : ∀ other ∈ groups, ∀ agent ∈ other.agents, IsPart normalized agent → agent = "*" :=
    fun other hother agent hagent hpart => hpart.elim id (halone other hother agent hagent)
  constructor
  · rintro ⟨agent, hagent, hpart, -⟩
    rw [← hstar group hgroup agent hagent hpart]
    exact hagent
  · intro hagent
    refine ⟨_, hagent, .inl rfl, fun other hother name hname hpart => ?_⟩
    rw [hstar other hother name hname hpart]

theorem namedFor_of_alone (hgroup : group ∈ groups)
    (halone : ∀ other ∈ groups, ∀ agent ∈ other.agents, agent.toList <:+: normalized → agent = "*") :
    NamedFor groups normalized group ↔ "*" ∈ group.agents := by
  have hself : ∀ other ∈ groups, String.ofList normalized ∈ other.agents → String.ofList normalized = "*" :=
    fun other hother hin => halone other hother _ hin (String.toList_ofList ▸ infix_rfl)
  constructor
  · rintro (hin | ⟨hin, -⟩)
    · exact hself group hgroup hin ▸ hin
    · exact hin
  · intro hin
    by_cases hnamed : ∃ other ∈ groups, String.ofList normalized ∈ other.agents
    · obtain ⟨other, hother, hname⟩ := hnamed
      exact .inl (hself other hother hname ▸ hin)
    · exact .inr ⟨hin, fun other hother hname => hnamed ⟨other, hother, hname⟩⟩

theorem rulesFor_congr {isFor isFor' : RobotsGroup → Prop} (h : ∀ group ∈ groups, (isFor group ↔ isFor' group)) :
    rulesFor groups isFor = rulesFor groups isFor' :=
  Set.ext fun _ => exists_congr fun group => and_congr_right fun hgroup => and_congr_left' (h group hgroup)

/-- **How the rules of a robots file decide.** For every parsed file, every agent's name and every path of one line,
where no rule of the groups that are read and ends in `$` is in play: the rules of the groups decide whose name is,
of those that are part of the agent's, a longest one, `*` counting as the shortest. Of those that apply the longest
decides, one that allows before one that forbids, and a path to which none applies is allowed. Where the agent's name
stands in the file in full, or no other name is part of it, this is what the standard says. -/
theorem robots_decide (lowerCase : List Char → List Char) (parsed : RobotsParseResult) (userAgent path : String)
    (hline : ∀ c ∈ path.toList, endsLine c = false)
    (hend : ∀ rule ∈ rulesFor parsed.groups (ReadFor parsed.groups (lowerCase userAgent.toList)),
      rule.rule.toList.getLast? = some '$' → OutOfPlay rule.rule.toList path.toList) :
    (isPathAllowed lowerCase parsed userAgent path = true ↔
      Allows (rulesFor parsed.groups (ReadFor parsed.groups (lowerCase userAgent.toList))) path) ∧
    ((lowerCase userAgent.toList ≠ [] ∧ lowerCase userAgent.toList ≠ ['*'] ∧
        (∃ group ∈ parsed.groups, String.ofList (lowerCase userAgent.toList) ∈ group.agents)) ∨
      (∀ group ∈ parsed.groups, ∀ agent ∈ group.agents, agent.toList <:+: lowerCase userAgent.toList → agent = "*") →
      (isPathAllowed lowerCase parsed userAgent path = true ↔
        Allows (rulesFor parsed.groups (NamedFor parsed.groups (lowerCase userAgent.toList))) path)) := by
  refine ⟨isPathAllowed_iff hline hend, fun hnames => (isPathAllowed_iff hline hend).trans ?_⟩
  suffices hrules : rulesFor parsed.groups (ReadFor parsed.groups (lowerCase userAgent.toList)) =
      rulesFor parsed.groups (NamedFor parsed.groups (lowerCase userAgent.toList)) by
    rw [hrules]
  refine rulesFor_congr fun group hgroup => ?_
  rcases hnames with ⟨hne, hstar, hnamed⟩ | halone
  · refine (readFor_of_named hne hstar hnamed).trans (or_iff_left ?_).symm
    rintro ⟨-, hnone⟩
    obtain ⟨other, hother, hin⟩ := hnamed
    exact hnone other hother hin
  · exact (readFor_of_alone hgroup halone).trans (namedFor_of_alone hgroup halone).symm

/-- A file that forbids everyone a directory. -/
def onePrivate : RobotsParseResult := ⟨[⟨["*"], ["/"], ["/private"]⟩], [], none, false, 0, false⟩

/-- The standard forbids the directory too. -/
theorem private_is_forbidden :
    ¬ Allows (rulesFor onePrivate.groups (NamedFor onePrivate.groups "agentify-scanner".toList)) "/private/x" := by
  have hplain : ∀ group ∈ onePrivate.groups, ∀ rule ∈ group.rules, rule.rule.toList.getLast? ≠ some '$' := by
    decide +kernel
  have hend : ∀ rule ∈ rulesFor onePrivate.groups
      (ReadFor onePrivate.groups (lowered "agentify-scanner".toList)),
      rule.rule.toList.getLast? = some '$' → OutOfPlay rule.rule.toList "/private/x".toList := by
    rintro rule ⟨group, hgroup, -, hin⟩ hdollar
    exact absurd hdollar (hplain group hgroup rule hin)
  have halone : ∀ group ∈ onePrivate.groups, ∀ agent ∈ group.agents,
      agent.toList <:+: lowered "agentify-scanner".toList → agent = "*" := by
    decide +kernel
  have hone : "/private/x".toList.all (!endsLine ·) = true := by decide +kernel
  have hline : ∀ c ∈ "/private/x".toList, endsLine c = false := fun c hc =>
    (Bool.not_eq_true' _).mp (List.all_eq_true.1 hone c hc)
  have hsame : lowered "agentify-scanner".toList = "agentify-scanner".toList := by decide +kernel
  rw [← hsame, ← (robots_decide lowered onePrivate "agentify-scanner" "/private/x" hline hend).2 (.inr halone)]
  decide +kernel

/-- A file that forbids everything to an agent whose name is a part of the scanner's. -/
def forAnother : RobotsParseResult := parseRobots lowered "User-agent: scanner\nDisallow: /"

/-- The scanner takes the rules of the other agent for its own; to the standard the file has none for it. -/
theorem rules_of_another_are_taken :
    isPathAllowed lowered forAnother "agentify-scanner" "/" = false ∧
      Allows (rulesFor forAnother.groups (NamedFor forAnother.groups (lowered "agentify-scanner".toList))) "/" := by
  have hgroups : forAnother.groups = [⟨["scanner"], [], ["/"]⟩] := by decide +kernel
  refine ⟨by decide +kernel, ?_⟩
  rintro forbidding ⟨group, hgroup, hnamed, -⟩
  rw [hgroups] at hgroup hnamed
  obtain rfl := List.mem_singleton.1 hgroup
  rcases hnamed with hname | ⟨hstar, -⟩
  · exact absurd hname (by decide +kernel)
  · exact absurd hstar (by decide)

end Coinslot
