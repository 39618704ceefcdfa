import Homelab.Proofs.TemplateBuild.Shared

/-!
# Waiting for the image

A build asks once whether its image is in the storage.  Only if it is absent a download is begun,
and then the image is asked for again after each wait, until it is there, the question fails, or
the limit is reached.  What the cluster answers to the questions is taken as a sequence; the
journal before a question does not depend on the answers, so the sequence is that of the site.
-/

namespace Homelab

/-- What the answer about the content of a storage says of an image. -/
def Cluster.imageListed (image : String) : Except String Value → Except Failure Bool
  | .error reason => .error (.cluster .listContent reason)
  | .ok answer =>
      (members answer).bind fun items => (firstWith "volid" image items).map Option.isSome

theorem Cluster.outcome_hasImage
    (cluster : Cluster) (storage image : String) (site : Site) :
    outcome (cluster.hasImage storage image) site =
      (imageListed image (site.outside.cluster site.journal (.listContent cluster.node storage)),
        site.record (.cluster (.listContent cluster.node storage))) := by
  rw [hasImage, outcome_bind, Act.outcome_callCluster]
  cases site.outside.cluster site.journal (.listContent cluster.node storage) with
  | error reason => rfl
  | ok answer =>
      simp only [outcome_bind, outcome_ofExcept, imageListed]
      cases members answer with
      | error e => rfl
      | ok items =>
          simp only [Except.bind]
          cases firstWith "volid" image items <;> rfl

/-- From one question on there are further ones, until one is not answered by absence or the limit
is reached. -/
structure AsksUntil (answer : Nat → Except Failure Bool) (done limit checks : Nat) : Prop where
  done_le : done ≤ checks
  le_limit : checks ≤ limit
  absent : ∀ k, done ≤ k → k < checks → answer k = .ok false
  stops : checks < limit → answer checks ≠ .ok false

namespace AsksUntil

variable {answer : Nat → Except Failure Bool} {done limit checks : Nat}

theorem stay
    (h : done = limit ∨ done ≤ limit ∧ answer done ≠ .ok false) :
    AsksUntil answer done limit done where
  done_le := Nat.le_refl done
  le_limit := by omega
  absent k hfirst hlast := absurd hfirst (by omega)
  stops hlast := h.elim (fun hdone => absurd hlast (by omega)) And.right

theorem next
    (hdone : answer done = .ok false)
    (h : AsksUntil answer (done + 1) limit checks) :
    AsksUntil answer done limit checks where
  done_le := Nat.le_of_succ_le h.done_le
  le_limit := h.le_limit
  absent k hfirst hlast := by
    rcases Nat.eq_or_lt_of_le hfirst with rfl | hlater
    · exact hdone
    · exact h.absent k hlater hlast
  stops := h.stops

/-- The last answer is presence exactly if there is such an answer within the limit and no failure
before it. -/
theorem last_present_iff
    (h : AsksUntil answer 0 limit checks) :
    answer checks = .ok true ↔
      ∃ k ≤ limit, answer k = .ok true ∧ ∀ j < k, ∃ found, answer j = .ok found := by
  constructor
  · intro hlast
    exact ⟨checks, h.le_limit, hlast, fun j hj => ⟨false, h.absent j (Nat.zero_le j) hj⟩⟩
  · rintro ⟨k, hk, hpresent, hbefore⟩
    rcases Nat.lt_trichotomy k checks with hlt | rfl | hgt
    · have habsent := h.absent k (Nat.zero_le k) hlt
      rw [hpresent] at habsent
      cases habsent
    · exact hpresent
    · obtain ⟨found, hfound⟩ := hbefore checks hgt
      cases found with
      | true => exact hfound
      | false => exact absurd hfound (h.stops (by omega))

/-- Where all answers are absence there are as many questions as the limit lets there be. -/
theorem eq_limit
    (h : AsksUntil answer 0 limit checks)
    (habsent : ∀ k ≤ limit, answer k = .ok false) :
    checks = limit := by
  by_contra hne
  have hle := h.le_limit
  exact h.stops (by omega) (habsent checks hle)

end AsksUntil

namespace TemplateBuild

/-! ### Questions and answers -/

section

variable (build : TemplateBuild) (cluster : Cluster) (site : Site)

/-- The question for the content of the storage that the image belongs in. -/
def imageQuestion : ClusterCall := .listContent cluster.node build.manifest.storage

/-- The order to download the image. -/
def imageOrder : ClusterCall :=
  .download cluster.node build.manifest.storage build.manifest.imageUrl
    (Cluster.fileName build.manifest.image)

/-- So many waits, each with the question after it. -/
def imageRounds (checks : Nat) : List Event :=
  (List.replicate checks
    [.slept build.settings.pollInterval, .cluster (build.imageQuestion cluster)]).flatten

/-- What happens from the first question on, if the image is absent and so many further questions
follow the download. -/
def imageRun (checks : Nat) : List Event :=
  .cluster (build.imageQuestion cluster) :: .cluster (build.imageOrder cluster) ::
    build.imageRounds cluster checks

/-- What happens before a question; the first one has the number zero. -/
def beforeQuestion : Nat → List Event
  | 0 => []
  | k + 1 => build.imageRun cluster k ++ [.slept build.settings.pollInterval]

/-- What the answer to a question says of the image. -/
def imageAnswer (k : Nat) : Except Failure Bool :=
  Cluster.imageListed build.manifest.image
    (site.outside.cluster (site.journal ++ build.beforeQuestion cluster k)
      (build.imageQuestion cluster))

/-- The answer to the order of the download. -/
def orderAnswer : Except String Value :=
  site.outside.cluster (site.journal ++ [.cluster (build.imageQuestion cluster)])
    (build.imageOrder cluster)

/-- What happens in all, with this answer to the first question and so many further ones. -/
def imageTrace (first : Except Failure Bool) (checks : Nat) : List Event :=
  match first with
  | .ok false => build.imageRun cluster checks
  | _ => [.cluster (build.imageQuestion cluster)]

/-- The site after some more events. -/
def siteAfter (events : List Event) : Site := { site with journal := site.journal ++ events }

end

section

variable (build : TemplateBuild) (cluster : Cluster) (site : Site)

theorem imageRun_succ
    (k : Nat) :
    build.imageRun cluster (k + 1) =
      build.beforeQuestion cluster (k + 1) ++ [.cluster (build.imageQuestion cluster)] := by
  simp [imageRun, beforeQuestion, imageRounds, List.replicate_succ']

theorem record_siteAfter
    (events : List Event) (e : Event) :
    (siteAfter site events).record e = siteAfter site (events ++ [e]) := by
  simp [siteAfter, Site.record]

theorem outcome_hasImage_siteAfter
    (k : Nat) :
    outcome (cluster.hasImage build.manifest.storage build.manifest.image)
        (siteAfter site (build.beforeQuestion cluster k)) =
      (build.imageAnswer cluster site k,
        siteAfter site (build.beforeQuestion cluster k ++
          [.cluster (build.imageQuestion cluster)])) := by
  rw [Cluster.outcome_hasImage, ← record_siteAfter]
  rfl

/-- After a question that was answered by absence, the image is asked for until it is not absent
any more or the limit is reached. -/
theorem outcome_awaitImage :
    ∀ left done, build.imageAnswer cluster site done = .ok false →
      ∃ checks, AsksUntil (build.imageAnswer cluster site) done (done + left) checks ∧
        outcome (awaitImage cluster build.manifest.storage build.manifest.image
            build.settings.pollInterval left) (siteAfter site (build.imageRun cluster done)) =
          (build.imageAnswer cluster site checks, siteAfter site (build.imageRun cluster checks))
  | 0, done, hdone => ⟨done, .stay (.inl rfl), by rw [hdone]; rfl⟩
  | left + 1, done, hdone => by
      have hsleep : outcome (Act.sleep build.settings.pollInterval)
          (siteAfter site (build.imageRun cluster done)) =
            (.ok ⟨⟩, siteAfter site (build.beforeQuestion cluster (done + 1))) := by
        rw [beforeQuestion, ← record_siteAfter]
        rfl
      have hlimit : done + (left + 1) = done + 1 + left := by omega
      rw [awaitImage, outcome_bind, hsleep]
      simp only [outcome_bind, outcome_hasImage_siteAfter, ← imageRun_succ, hlimit]
      -- The answer to this question decides whether there is a further one.
      rcases hanswer : build.imageAnswer cluster site (done + 1) with e | _ | _
      · exact ⟨done + 1, .next hdone (.stay (.inr ⟨by omega, by simp [hanswer]⟩)),
          by rw [hanswer]⟩
      · obtain ⟨checks, hchecks, hends⟩ := outcome_awaitImage left (done + 1) hanswer
        exact ⟨checks, .next hdone hchecks, hends⟩
      · exact ⟨done + 1, .next hdone (.stay (.inr ⟨by omega, by simp [hanswer]⟩)),
          by rw [hanswer]; rfl⟩

/-- How the waiting for the image ends, given the last answer. -/
def imageEnd (last : Except Failure Bool) : Except Failure Unit :=
  match last with
  | .error e => .error e
  | .ok true => .ok ()
  | .ok false => .error (.imageMissing build.manifest.image build.settings.pollAttempts)

theorem imageEnd_eq_ok_iff
    {last : Except Failure Bool} :
    build.imageEnd last = .ok () ↔ last = .ok true := by
  rcases last with e | _ | _ <;> simp [imageEnd]

theorem outcome_hasImage_first :
    outcome (cluster.hasImage build.manifest.storage build.manifest.image) site =
      (build.imageAnswer cluster site 0,
        siteAfter site [.cluster (build.imageQuestion cluster)]) := by
  rw [Cluster.outcome_hasImage, imageAnswer, beforeQuestion, List.append_nil]
  rfl

/-- The order of the download, after an image that is absent. -/
theorem outcome_download_first :
    outcome (cluster.download build.manifest.storage build.manifest.image build.manifest.imageUrl)
        (siteAfter site [.cluster (build.imageQuestion cluster)]) =
      (match build.orderAnswer cluster site with
        | .ok task => .ok task
        | .error reason => .error (.cluster .download reason),
      siteAfter site (build.imageRun cluster 0)) := by
  rw [Cluster.download, Act.outcome_callCluster, record_siteAfter]
  rfl

/-- A download that is refused ends the waiting. -/
theorem outcome_provideImage_of_refused
    {reason : String}
    (habsent : build.imageAnswer cluster site 0 = .ok false)
    (hrefused : build.orderAnswer cluster site = .error reason) :
    outcome (provideImage cluster build.manifest build.settings) site =
      (.error (.cluster .download reason), siteAfter site (build.imageRun cluster 0)) := by
  rw [provideImage, outcome_bind, outcome_hasImage_first, habsent]
  simp only [Bool.false_eq_true, if_false, outcome_bind, outcome_download_first, hrefused]

/-- Otherwise the image is asked for until it is not absent or the limit is reached. -/
theorem outcome_provideImage
    (hordered : build.imageAnswer cluster site 0 = .ok false →
      ∃ task, build.orderAnswer cluster site = .ok task) :
    ∃ checks,
      AsksUntil (build.imageAnswer cluster site) 0 build.settings.pollAttempts.toNat checks ∧
      outcome (provideImage cluster build.manifest build.settings) site =
        (build.imageEnd (build.imageAnswer cluster site checks),
          siteAfter site (build.imageTrace cluster (build.imageAnswer cluster site 0) checks)) := by
  rw [provideImage, outcome_bind, outcome_hasImage_first]
  rcases hfirst : build.imageAnswer cluster site 0 with e | _ | _
  · exact ⟨0, .stay (.inr ⟨Nat.zero_le _, by simp [hfirst]⟩), by rw [hfirst]; rfl⟩
  · obtain ⟨task, htask⟩ := hordered hfirst
    obtain ⟨checks, hchecks, hends⟩ := outcome_awaitImage build cluster site
      build.settings.pollAttempts.toNat 0 hfirst
    rw [Nat.zero_add] at hchecks
    refine ⟨checks, hchecks, ?_⟩
    simp only [Bool.false_eq_true, if_false, outcome_bind, outcome_download_first, htask, hends]
    rcases build.imageAnswer cluster site checks with e | _ | _ <;> rfl
  · exact ⟨0, .stay (.inr ⟨Nat.zero_le _, by simp [hfirst]⟩), by rw [hfirst]; rfl⟩

end

theorem outcome_ensureImage
    {build : TemplateBuild} {cluster : Cluster} {inv : Inventory}
    (hready : build.ready = .ok (cluster, inv))
    (site : Site) :
    outcome build.ensureImage site =
      outcome (provideImage cluster build.manifest build.settings) site := by
  rw [ensureImage, outcome_bind, outcome_ofExcept, hready]

/-- A download is begun at most once, after a first answer of absence.  After it the image is asked
for once after each wait, until it is there, a question fails, or the limit is reached.  The waiting
succeeds exactly if the image is there in time, no question before has failed and a download that
had to be begun was not refused.  If it is always absent there are as many waits as the limit says.
A download that is refused ends the waiting before the first one. -/
theorem image_awaited
    {build : TemplateBuild} {cluster : Cluster} {inv : Inventory}
    (hready : build.ready = .ok (cluster, inv))
    (site : Site) :
    let ends := outcome build.ensureImage site
    let limit := build.settings.pollAttempts.toNat
    let answer := build.imageAnswer cluster site
    let order := build.orderAnswer cluster site
    (∃ checks ≤ limit,
      ends.2 = siteAfter site (build.imageTrace cluster (answer 0) checks) ∧
      (∀ k < checks, answer k = .ok false) ∧
      (checks < limit → answer checks ≠ .ok false ∨ checks = 0 ∧ ∃ reason, order = .error reason)) ∧
    (ends.1 = .ok () ↔
      (∃ k ≤ limit, answer k = .ok true ∧ ∀ j < k, ∃ found, answer j = .ok found) ∧
        (answer 0 = .ok false → ∃ task, order = .ok task)) ∧
    ((∀ k ≤ limit, answer k = .ok false) → ∀ task, order = .ok task →
      ends.1 = .error (.imageMissing build.manifest.image build.settings.pollAttempts) ∧
        ends.2 = siteAfter site (build.imageRun cluster limit)) ∧
    (answer 0 = .ok false → ∀ reason, order = .error reason →
      ends.1 = .error (.cluster .download reason) ∧
        ends.2 = siteAfter site (build.imageRun cluster 0)) := by
  intro ends limit answer order
  have hends : ends = outcome (provideImage cluster build.manifest build.settings) site :=
    outcome_ensureImage hready site
  by_cases hordered : answer 0 = .ok false → ∃ task, order = .ok task
  · obtain ⟨checks, hchecks, hcourse⟩ := outcome_provideImage build cluster site hordered
    rw [hends, hcourse]
    refine ⟨⟨checks, hchecks.le_limit, rfl, fun k hk => hchecks.absent k (Nat.zero_le k) hk,
      fun hlimit => .inl (hchecks.stops hlimit)⟩, ?_, fun habsent _ _ => ?_, ?_⟩
    · rw [imageEnd_eq_ok_iff, hchecks.last_present_iff]
      exact (and_iff_left hordered).symm
    · have hfirst : build.imageAnswer cluster site 0 = .ok false := habsent 0 (Nat.zero_le limit)
      have hlast : build.imageAnswer cluster site checks = .ok false :=
        habsent checks hchecks.le_limit
      have hlimit : checks = limit := hchecks.eq_limit habsent
      exact ⟨by rw [hlast]; rfl, by rw [hfirst, hlimit]; rfl⟩
    · intro habsent reason hrefused
      obtain ⟨task, htask⟩ := hordered habsent
      rw [hrefused] at htask
      cases htask
  · obtain ⟨habsent, hnone⟩ := Classical.not_imp.mp hordered
    obtain ⟨reason, hreason⟩ : ∃ reason, order = .error reason := by
      cases horder : order with
      | ok task => exact absurd ⟨task, horder⟩ hnone
      | error reason => exact ⟨reason, rfl⟩
    rw [hends, outcome_provideImage_of_refused build cluster site habsent hreason]
    refine ⟨⟨0, Nat.zero_le limit, by rw [habsent]; rfl, by simp,
      fun _ => .inr ⟨rfl, reason, hreason⟩⟩, iff_of_false (by simp) fun h => hordered h.2,
      fun _ task htask => absurd ⟨task, htask⟩ hnone, ?_⟩
    · intro _ reason' hreason'
      obtain rfl := Except.error.inj (hreason.symm.trans hreason')
      exact ⟨rfl, rfl⟩

/-! ### An image that comes, and one that does not -/

/-- A site whose cluster has the image from some moment on, and answers the order of a download
like this. -/
def orderedSite (present : List Event → Bool) (task : Except String Value) : Site :=
  { sampleSite "" with
    outside := { (sampleSite "").outside with
      cluster := fun past c =>
        match c with
        | .listContent _ _ =>
            .ok (.list (if present past then [.object [("volid", .str "a:b")]] else []))
        | _ => task } }

/-- The image is there after two waits. -/
theorem image_awaited_sample :
    let site := orderedSite (fun past => 4 < past.length) (.ok (.str "UPID"))
    (sampleBegun 0).ready = .ok (sampleCluster, sampleInventory (.int 1)) ∧
      (outcome (sampleBegun 0).ensureImage site).1 = .ok () ∧
      (outcome (sampleBegun 0).ensureImage site).2 =
        siteAfter site ((sampleBegun 0).imageRun sampleCluster 2) := by
  intro site
  have hready : (sampleBegun 0).ready = .ok (sampleCluster, sampleInventory (.int 1)) := rfl
  have habsent : ∀ k < 2, (sampleBegun 0).imageAnswer sampleCluster site k = .ok false := by
    intro k hk
    rcases (by omega : k = 0 ∨ k = 1) with rfl | rfl <;> rfl
  have hpresent : (sampleBegun 0).imageAnswer sampleCluster site 2 = .ok true := rfl
  obtain ⟨⟨checks, -, hsite, hbefore, hstops⟩, hok, -⟩ := image_awaited hready site
  refine ⟨hready, hok.mpr ⟨⟨2, by decide, hpresent, fun j hj => ⟨false, habsent j hj⟩⟩,
    fun _ => ⟨.str "UPID", rfl⟩⟩, ?_⟩
  -- Two answers are absence and the third is not, so there are two waits.
  rcases Nat.lt_trichotomy checks 2 with hlt | rfl | hgt
  · rcases hstops (Nat.lt_trans hlt (by decide)) with hnot | ⟨-, reason, hreason⟩
    · exact absurd (habsent checks hlt) hnot
    · cases hreason
  · exact hsite
  · have habsent' := hbefore 2 hgt
    rw [hpresent] at habsent'
    cases habsent'

/-- A download that is refused ends the waiting at once, though the limit would let the image be
asked for 24 times more. -/
theorem image_absent_without_waits :
    let site := orderedSite (fun _ => false) (.error "no space")
    (sampleBegun 0).settings.pollAttempts = 24 ∧
      (∀ k, (sampleBegun 0).imageAnswer sampleCluster site k = .ok false) ∧
      (outcome (sampleBegun 0).ensureImage site).1 = .error (.cluster .download "no space") ∧
      (outcome (sampleBegun 0).ensureImage site).2.journal =
        [.cluster ((sampleBegun 0).imageQuestion sampleCluster),
          .cluster ((sampleBegun 0).imageOrder sampleCluster)] :=
  ⟨rfl, fun _ => rfl, rfl, rfl⟩

end TemplateBuild
end Homelab
