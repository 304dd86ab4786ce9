import AdaptiveCruiseControl.Avoidance.Types

/-!
# The initial pose estimate of the NDT scan matcher

`align_pose` answers the `ndt_align` service.  It tries `initial_estimate_particles_num` initial
poses around the requested one, proposed by a tree-structured Parzen estimator that learns from
the score of each trial, aligns the scan from each, and returns the result of the particle of
greatest transform probability.  `std::max_element` keeps the first particle of greatest score.
With no particle, which a non-positive `initial_estimate_particles_num` gives, it returns the
end of the empty array, which `align_pose` then dereferences.

The estimator, the alignment, and the conversions between the estimator's inputs and poses
(through `erf`, `erf_inv`, the standard deviations of the covariance and roll-pitch-yaw) are not
modelled: they are the fields of `AlignOps`, over which every result is quantified.  The loop
that threads the estimator through the trials, the particle array and the choice of the best
particle are.
-/

namespace AdaptiveCruiseControl
namespace NdtScanMatcher

open Avoidance (Pose)

/-- A `Particle`: the initial pose tried, the pose the alignment converged to, its score and its
iteration count. -/
structure Particle where
  initialPose : Pose
  resultPose : Pose
  score : ℚ
  iteration : Int
  deriving DecidableEq, Inhabited

/-- What `align_pose` reads of one alignment. -/
structure AlignResult where
  /-- `matrix4f_to_pose(ndt_result.pose)` -/
  pose : Pose
  transformProbability : ℚ
  iterationNum : Int
  deriving DecidableEq, Inhabited

/-- The parts of `align_pose` that are not modelled, for one request; `σ` is the state of the
`TreeStructuredParzenEstimator`. -/
structure AlignOps (σ : Type) where
  /-- `tpe.get_next_input()` -/
  getNextInput : σ → List ℚ
  /-- `tpe.add_trial(Trial{input, score})` -/
  addTrial : σ → List ℚ → ℚ → σ
  /-- the pose built from an input around the requested pose -/
  initialPoseOf : List ℚ → Pose
  /-- `ndt_ptr_->align(*output_cloud, pose_to_matrix4f(initial_pose))`, then `getResult()` -/
  align : Pose → AlignResult
  /-- the input the trial records for a result pose, relative to the requested pose -/
  trialInputOf : Pose → List ℚ

/-- The loop of `align_pose` with `k` trials left: each trial aligns from the estimator's next
proposal, keeps the particle and tells the estimator its score. -/
def alignLoop {σ : Type} (ops : AlignOps σ) : Nat → σ → List Particle
  | 0, _ => []
  | k + 1, tpe =>
    let input := ops.getNextInput tpe
    let initialPose := ops.initialPoseOf input
    let ndtResult := ops.align initialPose
    let particle : Particle :=
      ⟨initialPose, ndtResult.pose, ndtResult.transformProbability, ndtResult.iterationNum⟩
    particle :: alignLoop ops k
      (ops.addTrial tpe (ops.trialInputOf ndtResult.pose) ndtResult.transformProbability)

/-- One step of `std::max_element` with the comparison `lhs.score < rhs.score`: the largest
particle so far is replaced only by one of strictly greater score. -/
def maxElementStep (largest q : Particle) : Particle :=
  if largest.score < q.score then q else largest

/-- `std::max_element` over the particles; `none` stands for the end of an empty array. -/
def maxElement : List Particle → Option Particle
  | [] => none
  | p :: ps => some (ps.foldl maxElementStep p)

/-- `align_pose`: the result pose of the best particle, or `none` where it dereferences the end
of an empty particle array.  The loop `for (int i = 0; i < n; i++)` runs `n.toNat` times. -/
def alignPose {σ : Type} (ops : AlignOps σ) (initialEstimateParticlesNum : Int) (tpe : σ) :
    Option Pose :=
  (maxElement (alignLoop ops initialEstimateParticlesNum.toNat tpe)).map Particle.resultPose

end NdtScanMatcher
end AdaptiveCruiseControl
