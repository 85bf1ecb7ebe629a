import CloudOps.Settings.Environment
import Mathlib

/-!
# Where the region comes from

* `ProfileFile.RegionBehind`: the region of a profile, behind so many sources.
  `Environment.profileRegion?_eq_some_iff` says that the search along the sources finds it, however
  many there are.
* `ResolvesThrough`: what a region comes from when a profile may decide it.
* `Environment.region_ignores_profile`: the region comes from the profile that the environment
  selects, and when that is the one of the settings.
-/

namespace CloudOps

/-! ## Headings -/

namespace ProfileFile

variable {file : ProfileFile} {profile source key value region region' : String}

/-- Different profiles have different headings. -/
theorem headingOf_injective (file : ProfileFile) : Function.Injective (headingOf file) := by
  intro profile other same
  unfold headingOf at same
  split at same <;> split at same
  case isTrue.isTrue first second => exact first.1.trans second.1.symm
  case isFalse.isFalse => exact Heading.named.inj same
  all_goals cases same

/-- A profile with a property has a section. -/
theorem heading_mem_of_property? (h : file.property? profile key = some value) :
    headingOf file profile ∈ file.map fun part => Heading.ofText part.header := by
  obtain ⟨property, found, -⟩ := Option.map_eq_some_iff.1 h
  obtain ⟨part, hpart, -⟩ := List.mem_flatMap.1 (List.mem_of_find?_eq_some found)
  obtain ⟨among, heading⟩ := List.mem_filter.1 hpart
  exact List.mem_map.2 ⟨part, among, of_decide_eq_true heading⟩

/-! ## Sources -/

/-- The profile has the region, of its own or behind so many sources. -/
inductive RegionBehind (file : ProfileFile) : Nat → String → String → Prop
  | own {profile region : String} (own : file.property? profile "region" = some region) :
    RegionBehind file 0 profile region
  | source {sources : Nat} {profile source region : String}
    (lacks : file.property? profile "region" = none)
    (next : file.property? profile "source_profile" = some source)
    (rest : RegionBehind file sources source region) :
    RegionBehind file (sources + 1) profile region

variable {sources sources' steps : Nat}

theorem RegionBehind.unique (first : RegionBehind file sources profile region)
    (second : RegionBehind file sources' profile region') :
    sources = sources' ∧ region = region' := by
  induction first generalizing sources' with
  | own own =>
    cases second with
    | own own' => exact ⟨rfl, Option.some.inj (own.symm.trans own')⟩
    | source lacks => cases lacks.symm.trans own
  | source lacks next rest ih =>
    cases second with
    | own own' => cases lacks.symm.trans own'
    | source lacks' next' rest' =>
      cases next.symm.trans next'
      obtain ⟨rfl, rfl⟩ := ih rest'
      exact ⟨rfl, rfl⟩

theorem RegionBehind.heading_mem (h : RegionBehind file sources profile region) :
    headingOf file profile ∈ file.map fun part => Heading.ofText part.header := by
  cases h with
  | own own => exact heading_mem_of_property? own
  | source lacks next rest => exact heading_mem_of_property? next

/-- The profiles that are passed are all different: each has the region behind fewer sources than
the one before it. -/
theorem RegionBehind.passed (h : RegionBehind file sources profile region) :
    ∃ passed : List String, passed.length = sources + 1 ∧ passed.Nodup ∧
      ∀ name ∈ passed, ∃ left ≤ sources, RegionBehind file left name region := by
  induction h with
  | own own => exact ⟨[_], rfl, List.nodup_singleton _, by simpa using .own own⟩
  | @source sources profile source region lacks next rest ih =>
    have whole : RegionBehind file (sources + 1) profile region := .source lacks next rest
    obtain ⟨passed, length, nodup, behind⟩ := ih
    refine ⟨profile :: passed, congrArg (· + 1) length, List.nodup_cons.2 ⟨fun again => ?_, nodup⟩,
      List.forall_mem_cons.2 ⟨⟨_, Nat.le_refl _, whole⟩, fun name among => ?_⟩⟩
    · obtain ⟨left, few, same⟩ := behind profile again
      have := (whole.unique same).1
      omega
    · obtain ⟨left, few, same⟩ := behind name among
      exact ⟨left, Nat.le_succ_of_le few, same⟩

/-- No region is behind as many sources as the file has sections. -/
theorem RegionBehind.lt_length (h : RegionBehind file sources profile region) :
    sources < file.length := by
  obtain ⟨passed, length, nodup, behind⟩ := h.passed
  -- every profile that is passed heads a section of its own
  have headings : (passed.map (headingOf file)).Nodup := nodup.map (headingOf_injective file)
  have among : passed.map (headingOf file) ⊆ file.map fun part => Heading.ofText part.header := by
    intro heading hm
    obtain ⟨name, hname, rfl⟩ := List.mem_map.1 hm
    obtain ⟨_, -, own⟩ := behind name hname
    exact own.heading_mem
  have := (List.subperm_of_subset headings among).length_le
  rw [List.length_map, List.length_map, length] at this
  omega

end ProfileFile

open ProfileFile

namespace Environment

/-- The search along the sources, by the number of profiles that it may look at. -/
theorem regionAlong_eq_some_iff {file : ProfileFile} {steps : Nat} {profile region : String} :
    regionAlong file steps profile = some region ↔
      ∃ sources < steps, RegionBehind file sources profile region := by
  induction steps generalizing profile with
  | zero => simp [regionAlong]
  | succ steps ih =>
    rw [regionAlong]
    cases own : file.property? profile "region" with
    | some value =>
      have found : RegionBehind file 0 profile value := .own own
      constructor
      · intro same
        cases same
        exact ⟨0, Nat.zero_lt_succ _, found⟩
      · rintro ⟨sources, -, behind⟩
        rw [(found.unique behind).2]
    | none =>
      dsimp only
      rw [Option.bind_eq_some_iff]
      constructor
      · rintro ⟨source, next, found⟩
        obtain ⟨sources, few, behind⟩ := ih.1 found
        exact ⟨sources + 1, Nat.succ_lt_succ few, .source own next behind⟩
      · rintro ⟨_, few, behind⟩
        cases behind with
        | own own' => cases own.symm.trans own'
        | source lacks next rest =>
          exact ⟨_, next, ih.2 ⟨_, Nat.lt_of_succ_lt_succ few, rest⟩⟩

/-- The search along the sources finds the region of a profile. -/
theorem profileRegion?_eq_some_iff {env : Environment} {profile region : String} :
    env.profileRegion? profile = some region ↔
      ∃ sources, RegionBehind env.profiles sources profile region := by
  unfold profileRegion?
  rw [regionAlong_eq_some_iff]
  constructor
  · rintro ⟨sources, -, behind⟩
    exact ⟨sources, behind⟩
  · rintro ⟨sources, behind⟩
    exact ⟨sources, Nat.lt_succ_of_lt behind.lt_length, behind⟩

theorem profileRegion?_eq_none_iff {env : Environment} {profile : String} :
    env.profileRegion? profile = none ↔
      ∀ sources region, ¬ RegionBehind env.profiles sources profile region := by
  simp only [Option.eq_none_iff_forall_ne_some, ne_eq, profileRegion?_eq_some_iff, not_exists]
  exact forall_comm

end Environment

/-! ## The law -/

/-- The region comes from the settings, else from a variable, else from this profile, and else it
is the default one. -/
structure ResolvesThrough (env : Environment) (settings : ClientSettings)
    (profile region : String) : Prop where
  given : ∀ own, settings.region = some own → region = own
  named : settings.region = none → ∀ own, env.namedRegion? = some own → region = own
  profiled : settings.region = none → env.namedRegion? = none →
    ∀ sources own, RegionBehind env.profiles sources profile own → region = own
  otherwise : settings.region = none → env.namedRegion? = none →
    (∀ sources own, ¬ RegionBehind env.profiles sources profile own) → region = defaultRegion

/-- There is one such region. -/
theorem resolvesThrough_iff {env : Environment} {settings : ClientSettings}
    {profile region : String} :
    ResolvesThrough env settings profile region ↔
      region = (settings.region.or (env.namedRegion?.or (env.profileRegion? profile))).getD
        defaultRegion := by
  constructor
  · rintro ⟨given, named, profiled, otherwise⟩
    cases own : settings.region with
    | some own' => simp [given own' own]
    | none =>
      cases unnamed : env.namedRegion? with
      | some own' => simp [named own own' unnamed]
      | none =>
        cases found : env.profileRegion? profile with
        | some own' =>
          obtain ⟨sources, behind⟩ := Environment.profileRegion?_eq_some_iff.1 found
          simp [profiled own unnamed sources own' behind]
        | none =>
          exact otherwise own unnamed (Environment.profileRegion?_eq_none_iff.1 found)
  · rintro rfl
    constructor
    case given =>
      intro own same
      simp [same]
    case named =>
      intro ungiven own same
      simp [ungiven, same]
    case profiled =>
      intro ungiven unnamed sources own behind
      simp [ungiven, unnamed, Environment.profileRegion?_eq_some_iff.2 ⟨sources, behind⟩]
    case otherwise =>
      intro ungiven unnamed absent
      simp [ungiven, unnamed, Environment.profileRegion?_eq_none_iff.2 absent]

/-- **The region ignores the profile of the settings.** It comes from the profile that the
environment selects, and from the profile of the settings exactly if that makes no difference. -/
theorem Environment.region_ignores_profile (env : Environment) (settings : ClientSettings) :
    ResolvesThrough env settings env.selectedProfile (env.region settings) ∧
      (ResolvesThrough env settings (settings.profile.getD env.selectedProfile)
          (env.region settings) ↔
        settings.region ≠ none ∨ env.namedRegion? ≠ none ∨
          (env.profileRegion? (settings.profile.getD env.selectedProfile)).getD defaultRegion =
            (env.profileRegion? env.selectedProfile).getD defaultRegion) := by
  refine ⟨resolvesThrough_iff.2 rfl, ?_⟩
  rw [resolvesThrough_iff, Environment.region]
  cases settings.region with
  | some own => simp
  | none =>
    cases env.namedRegion? with
    | some own => simp
    | none => simp [eq_comm]

/-- An environment with a profile that has a region. -/
def workEnvironment : Environment := ⟨[], "[profile work]\nregion = eu-north-1\n"⟩

/-- Settings that select that profile. -/
def workSettings : ClientSettings := { ClientSettings.default with profile := some "work" }

/-- The default profile is not in the file. -/
theorem workEnvironment_region : workEnvironment.region workSettings = "us-west-2" := by
  have profiles : workEnvironment.profiles =
      [⟨"profile work", [⟨"region", "eu-north-1", []⟩]⟩] := by cbv
  have heading : Heading.ofText "profile work" = .named "work" := by cbv
  have selected : workEnvironment.selectedProfile = defaultProfile := by cbv
  have unnamed : workEnvironment.namedRegion? = none := by cbv
  have absent (key : String) : workEnvironment.profiles.property? defaultProfile key = none := by
    rw [profiles]
    simp [ProfileFile.property?, propertiesOf, headingOf, heading, defaultProfile]
  have nothing : workEnvironment.profileRegion? defaultProfile = none := by
    simp [Environment.profileRegion?, Environment.regionAlong, absent]
  rw [Environment.region, selected, unnamed, nothing]
  rfl

/-- The region of a selected profile is passed over. -/
theorem selected_profile_passed_over :
    RegionBehind workEnvironment.profiles 0 "work" "eu-north-1" ∧
      workEnvironment.region workSettings = "us-west-2" ∧
      ¬ ResolvesThrough workEnvironment workSettings "work"
        (workEnvironment.region workSettings) := by
  have behind : RegionBehind workEnvironment.profiles 0 "work" "eu-north-1" := .own (by cbv)
  refine ⟨behind, workEnvironment_region, fun resolves => ?_⟩
  have unnamed : workEnvironment.namedRegion? = none := by cbv
  have same := resolves.profiled rfl unnamed 0 _ behind
  rw [workEnvironment_region] at same
  exact absurd same (by decide)

end CloudOps
