import AapGateway.Foundations.Separated
import AapGateway.Routes.Serializers
import AapGateway.Xds.ClusterNames

/-!
# Node tags in cluster names

The serializers normalise the node tags of a route, and `Route.save` puts the sorted tags into the
name of the Envoy cluster. Routes to one port of a service share a cluster when they select the same
nodes, so the name should be the same exactly when the tags are the same set.

A route without tags selects all nodes, and its name says `*`. A tag may be `*` too, and selects
only the nodes with that tag.

## Main definitions

* `denotedTags`: the tags that a text denotes;
* `NormalTags`: what the normalisation of a text keeps;
* `CanonicalTags`: two routes have one cluster name exactly when their texts denote one set.

## Main results

* `normalTags`: the normalisation keeps the tags in their order;
* `canonicalTags_iff`: the texts for which the cluster names are canonical.
-/

namespace AapGateway.Routes

/-- The tags that a text denotes: its trimmed pieces that are not empty. -/
def denotedTags (nodeTags : String) : List String :=
  Separated.pieces ',' nodeTags

/-- `normalize_comma_separated_list` writes the distinct tags. -/
theorem normalizeCommaSeparatedList_eq (value : String) :
    normalizeCommaSeparatedList value = Separated.normalize ',' value := by
  unfold normalizeCommaSeparatedList
  split
  · -- `if not value: return ""`; the empty text has no pieces either.
    rename_i hempty
    rw [hempty]
    exact (Separated.normalize_eq_empty_iff.mpr
      (by simp [Separated.pieces, Text.split, Text.strip])).symm
  · rfl

/-- The tags of a normalised text. -/
theorem denotedTags_normalize (value : String) :
    denotedTags (normalizeCommaSeparatedList value) = (denotedTags value).eraseDups := by
  rw [normalizeCommaSeparatedList_eq]
  exact Separated.pieces_normalize ',' value

/-- The normalisation of a text is idempotent, has every tag once, and keeps the set of tags and the
order of their first occurrences. -/
structure NormalTags (value : String) : Prop where
  idempotent : normalizeCommaSeparatedList (normalizeCommaSeparatedList value) =
    normalizeCommaSeparatedList value
  nodup : (denotedTags (normalizeCommaSeparatedList value)).Nodup
  mem : ∀ tag, tag ∈ denotedTags (normalizeCommaSeparatedList value) ↔ tag ∈ denotedTags value
  order : (denotedTags (normalizeCommaSeparatedList value)).Pairwise fun a b =>
    (denotedTags value).idxOf a < (denotedTags value).idxOf b

/-- What the normalisation keeps of every text. -/
theorem normalTags (value : String) : NormalTags value where
  idempotent := by
    rw [normalizeCommaSeparatedList_eq, normalizeCommaSeparatedList_eq,
      Separated.normalize_normalize]
  nodup := by
    rw [denotedTags_normalize]
    exact Separated.nodup_eraseDups _
  mem := by
    intro tag
    rw [denotedTags_normalize, List.mem_eraseDups]
  order := by
    rw [denotedTags_normalize]
    exact Separated.pairwise_idxOf_eraseDups _

/-- A route with normalised node tags. -/
def withNodeTags (r : Route ℕ) (value : String) : Route ℕ :=
  { r with nodeTags := normalizeCommaSeparatedList value }

/-- Two routes get one cluster name exactly when their texts denote one set of tags, and the texts
are normalised well. -/
structure CanonicalTags (r₁ r₂ : Route ℕ) (value₁ value₂ : String) : Prop where
  name : (withNodeTags r₁ value₁).prepare.envoyClusterName =
      (withNodeTags r₂ value₂).prepare.envoyClusterName ↔
    ∀ tag, tag ∈ denotedTags value₁ ↔ tag ∈ denotedTags value₂
  normal₁ : NormalTags value₁
  normal₂ : NormalTags value₂

/-- One text denotes no tags, and the other only the tag `*`. -/
def AllNodesAndStar (value₁ value₂ : String) : Prop :=
  denotedTags value₁ = [] ∧ denotedTags value₂ ≠ [] ∧ ∀ tag ∈ denotedTags value₂, tag = "*"

section Names

variable {r : Route ℕ} {value : String}

/-- The tags that a route with normalised tags reads. -/
theorem nodeTagsList_withNodeTags :
    (withNodeTags r value).nodeTagsList = (denotedTags value).eraseDups := by
  unfold Route.nodeTagsList withNodeTags
  dsimp only
  rw [normalizeCommaSeparatedList_eq]
  split
  · -- `node_tags_list` of an empty text.
    rename_i hempty
    rw [denotedTags, Separated.normalize_eq_empty_iff.mp hempty]
    rfl
  · -- The pieces have no commas and are stripped, so splitting and stripping again finds them.
    rename_i hne
    have hpieces : ∀ p ∈ (denotedTags value).eraseDups,
        p ≠ "" ∧ ',' ∉ p.toList ∧ Text.strip p = p :=
      fun p hp => Separated.of_mem_pieces (List.mem_eraseDups.mp hp)
    have hnonempty : (denotedTags value).eraseDups ≠ [] := by
      intro hnil
      rw [Separated.normalize, show Separated.pieces ',' value = denotedTags value from rfl,
        hnil] at hne
      exact hne rfl
    rw [Separated.normalize, show Separated.pieces ',' value = denotedTags value from rfl,
      Separated.split_join (fun p hp => (hpieces p hp).2.1) hnonempty]
    conv_rhs => rw [← List.map_id (denotedTags value).eraseDups]
    exact List.map_congr_left fun p hp => (hpieces p hp).2.2

/-- The route reads only `*` exactly when this is the only tag that the text denotes. -/
theorem nodeTagsList_eq_star_iff :
    (withNodeTags r value).nodeTagsList = ["*"] ↔
      denotedTags value ≠ [] ∧ ∀ tag ∈ denotedTags value, tag = "*" := by
  rw [nodeTagsList_withNodeTags]
  constructor
  · intro hstar
    constructor
    · intro hnil
      rw [hnil] at hstar
      cases hstar
    · intro tag htag
      rw [← List.mem_eraseDups, hstar] at htag
      exact List.mem_singleton.mp htag
  · rintro ⟨hne, hall⟩
    obtain ⟨tag, htag⟩ := List.exists_mem_of_ne_nil _ hne
    -- Two lists without duplicates that have the same members are permutations of each other.
    have hperm : (denotedTags value).eraseDups.Perm ["*"] := by
      refine (List.perm_ext_iff_of_nodup (Separated.nodup_eraseDups _)
        (List.nodup_singleton "*")).mpr fun tag' => ?_
      rw [List.mem_eraseDups, List.mem_singleton]
      exact ⟨hall tag', fun heq => heq ▸ hall tag htag ▸ htag⟩
    exact List.perm_singleton.mp hperm

/-- The route has no tags exactly when the text denotes none. -/
theorem nodeTags_eq_empty_iff : (withNodeTags r value).nodeTags = "" ↔ denotedTags value = [] := by
  show normalizeCommaSeparatedList value = "" ↔ _
  rw [normalizeCommaSeparatedList_eq]
  exact Separated.normalize_eq_empty_iff

end Names

/-- The cluster names of two routes to one port of a service are canonical exactly when it is not
the case that one has no tags and the other only the tag `*`. -/
theorem canonicalTags_iff {r₁ r₂ : Route ℕ} (hcluster : r₁.serviceCluster = r₂.serviceCluster)
    (hport : r₁.servicePort = r₂.servicePort) (value₁ value₂ : String) :
    CanonicalTags r₁ r₂ value₁ value₂ ↔
      ¬(AllNodesAndStar value₁ value₂ ∨ AllNodesAndStar value₂ value₁) := by
  have hnames : (withNodeTags r₁ value₁).prepare.envoyClusterName =
      (withNodeTags r₂ value₂).prepare.envoyClusterName ↔
        (∀ tag, tag ∈ denotedTags value₁ ↔ tag ∈ denotedTags value₂) ∨
          AllNodesAndStar value₁ value₂ ∨ AllNodesAndStar value₂ value₁ := by
    -- The name sorts the tags, and writes `*` for a route without any.
    show (withNodeTags r₁ value₁).clusterName = (withNodeTags r₂ value₂).clusterName ↔ _
    rw [Route.clusterName_eq_iff, Route.nodesKey_eq_iff, nodeTags_eq_empty_iff,
      nodeTags_eq_empty_iff, nodeTagsList_eq_star_iff, nodeTagsList_eq_star_iff,
      nodeTagsList_withNodeTags, nodeTagsList_withNodeTags,
      List.perm_ext_iff_of_nodup (Separated.nodup_eraseDups _) (Separated.nodup_eraseDups _)]
    simp only [List.mem_eraseDups]
    exact ⟨fun h => h.2.2, fun h => ⟨hcluster, hport, h⟩⟩
  have hdiffer : ∀ {value value'}, AllNodesAndStar value value' →
      ¬∀ tag, tag ∈ denotedTags value ↔ tag ∈ denotedTags value' := by
    rintro value value' ⟨hnil, hne, -⟩ hsame
    obtain ⟨tag, htag⟩ := List.exists_mem_of_ne_nil _ hne
    have hmem := (hsame tag).mpr htag
    rw [hnil] at hmem
    cases hmem
  constructor
  · -- The names are equal although the sets of tags are not.
    rintro ⟨hname, -, -⟩ hstar
    have hsame := hname.mp (hnames.mpr (Or.inr hstar))
    rcases hstar with hstar | hstar
    · exact hdiffer hstar hsame
    · exact hdiffer hstar fun tag => (hsame tag).symm
  · intro hnot
    exact ⟨hnames.trans (or_iff_left hnot), normalTags value₁, normalTags value₂⟩

/-- A route to the port 8443 of a service. -/
def taggedRoute : Route ℕ where
  pk := 1
  name := "tagged"
  kind := .additionalRoute
  httpPort := 1
  serviceCluster := 1
  servicePort := 8443
  isServiceHttps := true
  servicePath := "/tagged/"
  gatewayPath := "/tagged/"

/-- Two spellings of one set of tags give one name. -/
theorem canonicalTags_twoSpellings :
    CanonicalTags taggedRoute taggedRoute "b, a ,, b" "a,b" := by
  refine (canonicalTags_iff rfl rfl _ _).mpr ?_
  rintro (⟨hnil, -⟩ | ⟨hnil, -⟩)
  · exact absurd hnil (by decide +kernel)
  · exact absurd hnil (by decide +kernel)

/-- A route for all nodes and a route for the nodes with the tag `*` have the same name. -/
theorem not_canonicalTags_star : ¬CanonicalTags taggedRoute taggedRoute "" "*" := by
  intro h
  have hsame := h.name.mp (by decide +kernel)
  exact absurd (hsame "*") (by decide +kernel)

end AapGateway.Routes
