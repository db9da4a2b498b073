import VzletUr3e.Vision.Select

/-!
# Projection and back-projection

The tool is projected to a pixel to choose a detection, and the pixel of the detection is turned
into a point of the base frame to place it. Under a camera that looks straight down the two should
undo each other. They differ in the plane: `project_tool0_to_image` takes the tool at a hundredth
above the table, and `pixel_to_base_parallel_camera` takes the full height of the camera for the
depth. So the point that comes back is stretched away from the foot of the camera.
-/

namespace VzletUr3e.Vision

open Control PyFloat

/-! ## Rigid transforms -/

/-- The rotation of a quaternion. -/
def rotate (q : Pipeline.Quaternion ℝ) (p : Point ℝ) : Point ℝ where
  x := (q.w ^ 2 + q.x ^ 2 - q.y ^ 2 - q.z ^ 2) * p.x
    + (q.x * q.y - q.w * q.z + (q.x * q.y - q.w * q.z)) * p.y
    + (q.x * q.z + q.w * q.y + (q.x * q.z + q.w * q.y)) * p.z
  y := (q.x * q.y + q.w * q.z + (q.x * q.y + q.w * q.z)) * p.x
    + (q.w ^ 2 - q.x ^ 2 + q.y ^ 2 - q.z ^ 2) * p.y
    + (q.y * q.z - q.w * q.x + (q.y * q.z - q.w * q.x)) * p.z
  z := (q.x * q.z - q.w * q.y + (q.x * q.z - q.w * q.y)) * p.x
    + (q.y * q.z + q.w * q.x + (q.y * q.z + q.w * q.x)) * p.y
    + (q.w ^ 2 - q.x ^ 2 - q.y ^ 2 + q.z ^ 2) * p.z

/-- A rotation is given by a quaternion of length one. -/
def IsRotation (q : Pipeline.Quaternion ℝ) : Prop := q.x ^ 2 + q.y ^ 2 + q.z ^ 2 + q.w ^ 2 = 1

/-- The point in the frame that the transform leads to. -/
def Transform.apply (tf : Transform ℝ) (p : Point ℝ) : Point ℝ where
  x := (rotate tf.rotation p).x + tf.translation.x
  y := (rotate tf.rotation p).y + tf.translation.y
  z := (rotate tf.rotation p).z + tf.translation.z

/-- `do_transform_point` rotates and shifts. -/
def TransformsPoints (doTransformPoint : DoTransformPoint ℝ) : Prop :=
  ∀ p tf, IsRotation tf.rotation → doTransformPoint p tf = some (tf.apply p)

/-- The camera looks straight down from above the table, and the transform into its frame is the
inverse of the one into the base frame. -/
structure LooksDown (tfBaseCam tfCamBase : Transform ℝ) : Prop where
  rotation : IsRotation tfBaseCam.rotation
  rotation' : IsRotation tfCamBase.rotation
  axis : rotate tfBaseCam.rotation ⟨0, 0, 1⟩ = ⟨0, 0, -1⟩
  height : 0 < tfBaseCam.translation.z
  inverse : ∀ p, tfBaseCam.apply (tfCamBase.apply p) = p

variable {tfBaseCam tfCamBase : Transform ℝ}

/-- Such a camera is turned over, and then only about its axis. -/
theorem LooksDown.quaternion (h : LooksDown tfBaseCam tfCamBase) :
    tfBaseCam.rotation.z = 0 ∧ tfBaseCam.rotation.w = 0 := by
  have hunit := h.rotation
  have haxis := congrArg Point.z h.axis
  simp only [rotate, mul_zero, mul_one, zero_add] at haxis
  rw [IsRotation] at hunit
  -- the two equations leave nothing for the other two components
  have hsum : tfBaseCam.rotation.z ^ 2 + tfBaseCam.rotation.w ^ 2 = 0 := by linarith
  constructor
  · nlinarith [sq_nonneg tfBaseCam.rotation.z, sq_nonneg tfBaseCam.rotation.w]
  · nlinarith [sq_nonneg tfBaseCam.rotation.z, sq_nonneg tfBaseCam.rotation.w]

/-- It sees a point at its height above it. -/
theorem LooksDown.depth (h : LooksDown tfBaseCam tfCamBase) (p : Point ℝ) :
    (tfCamBase.apply p).z = tfBaseCam.translation.z - p.z := by
  obtain ⟨hz, hw⟩ := h.quaternion
  have hunit := h.rotation
  have hinverse := congrArg Point.z (h.inverse p)
  rw [IsRotation, hz, hw] at hunit
  generalize tfCamBase.apply p = c at hinverse ⊢
  simp only [Transform.apply, rotate, hz, hw] at hinverse
  linear_combination -hinverse - c.z * hunit

/-- Points on the ray of a pixel lie on a line through the camera. -/
theorem apply_ray (tf : Transform ℝ) (p : Point ℝ) (s : ℝ) :
    (tf.apply ⟨s * p.x, s * p.y, s * p.z⟩).x - tf.translation.x
        = s * ((tf.apply p).x - tf.translation.x) ∧
      (tf.apply ⟨s * p.x, s * p.y, s * p.z⟩).y - tf.translation.y
        = s * ((tf.apply p).y - tf.translation.y) := by
  constructor <;> simp only [Transform.apply, rotate] <;> ring

/-! ## The pinhole model -/

variable {cam : Intrinsics ℝ} {doTransformPoint : DoTransformPoint ℝ} {tool : Transform ℝ}
  {u v z : ℝ}

theorem le_eq_true_iff {x y : ℝ} : PyOrder.le x y = true ↔ x ≤ y := decide_eq_true_iff

/-- Division by anything but zero. -/
theorem pyDiv_eq {x y : ℝ} (h : y ≠ 0) : pyDiv x y = some (x / y) := by
  rw [pyDiv, if_neg]
  rintro ⟨hle, hge⟩
  have hzero : (lit 0 : ℝ) = 0 := Rat.cast_zero
  rw [hzero, le_eq_true_iff] at hle hge
  exact h (le_antisymm hle hge)

/-- The plane in which the tool is projected. -/
theorem lit_plane : (lit (1 / 100) : ℝ) = 1 / 100 := by
  change ((1 / 100 : ℚ) : ℝ) = 1 / 100
  norm_num

/-- The point that is projected. -/
noncomputable def toolOnPlane (tool : Transform ℝ) : Point ℝ :=
  ⟨tool.translation.x, tool.translation.y, lit (1 / 100)⟩

/-- What `project_tool0_to_image` does with the point in the frame of the camera. -/
theorem project_eq (hdo : TransformsPoints doTransformPoint)
    (hrotation : IsRotation tfCamBase.rotation) {c : Point ℝ}
    (hc : tfCamBase.apply (toolOnPlane tool) = c) :
    projectTool0ToImage cam doTransformPoint (some tool) (some tfCamBase)
      = if c.z ≤ 5 / 100 then none
        else if outsideUsableImage (cam.fx * c.x / c.z + cam.cx) (cam.fy * c.y / c.z + cam.cy) then
          none
        else some (cam.fx * c.x / c.z + cam.cx, cam.fy * c.y / c.z + cam.cy, c.z) := by
  have hlit : (lit (5 / 100) : ℝ) = 5 / 100 := by
    change ((5 / 100 : ℚ) : ℝ) = 5 / 100
    norm_num
  have hpoint := hdo (toolOnPlane tool) tfCamBase hrotation
  have hreturn : projectTool0ToImage cam doTransformPoint (some tool) (some tfCamBase)
      = (doTransformPoint (toolOnPlane tool) tfCamBase).bind fun c ↦
        if PyOrder.le c.z (lit (5 / 100) : ℝ) = true then none
        else (pyDiv (cam.fx * c.x) c.z).bind fun x ↦ (pyDiv (cam.fy * c.y) c.z).bind fun y ↦
          if outsideUsableImage (x + cam.cx) (y + cam.cy) then none
          else some (x + cam.cx, y + cam.cy, c.z) := rfl
  rw [hreturn, hpoint, hc, Option.bind_some, hlit]
  by_cases hdepth : c.z ≤ 5 / 100
  · rw [if_pos hdepth, if_pos (le_eq_true_iff.mpr hdepth)]
  · have hne : c.z ≠ 0 := by
      rintro hzero
      rw [hzero] at hdepth
      norm_num at hdepth
    rw [if_neg hdepth, if_neg fun hle ↦ hdepth (le_eq_true_iff.mp hle), pyDiv_eq hne, pyDiv_eq hne]
    rfl

/-- What it returns is the pixel of that point. -/
theorem project_eq_some (hdo : TransformsPoints doTransformPoint)
    (hrotation : IsRotation tfCamBase.rotation)
    (h : projectTool0ToImage cam doTransformPoint (some tool) (some tfCamBase) = some (u, v, z)) :
    0 < z ∧ z = (tfCamBase.apply (toolOnPlane tool)).z ∧
      u = cam.fx * (tfCamBase.apply (toolOnPlane tool)).x / z + cam.cx ∧
      v = cam.fy * (tfCamBase.apply (toolOnPlane tool)).y / z + cam.cy := by
  rw [project_eq hdo hrotation rfl] at h
  split at h
  · cases h
  · rename_i hdepth
    split at h
    · cases h
    · cases h
      exact ⟨by linarith, rfl, rfl, rfl⟩

/-- What `pixel_to_base_parallel_camera` returns is a point on the ray of the pixel. -/
theorem pixelToBase_eq (hdo : TransformsPoints doTransformPoint)
    (hrotation : IsRotation tfBaseCam.rotation) (hheight : 0 < tfBaseCam.translation.z)
    (hfx : 0 < cam.fx) (hfy : 0 < cam.fy) :
    pixelToBaseParallelCamera cam doTransformPoint (some tfBaseCam) (some tfBaseCam) u v
      = .ok (some (tfBaseCam.apply ⟨(u - cam.cx) * tfBaseCam.translation.z / cam.fx,
          (v - cam.cy) * tfBaseCam.translation.z / cam.fy, tfBaseCam.translation.z⟩)) := by
  have hdepth : PyFloat.abs tfBaseCam.translation.z = tfBaseCam.translation.z := abs_of_pos hheight
  have hnot : ¬PyOrder.le tfBaseCam.translation.z (lit 0 : ℝ) = true := by
    have hzero : (lit 0 : ℝ) = 0 := Rat.cast_zero
    rwa [hzero, le_eq_true_iff, not_le]
  have hreturn : pixelToBaseParallelCamera cam doTransformPoint (some tfBaseCam) (some tfBaseCam) u
      v = if PyOrder.le (PyFloat.abs tfBaseCam.translation.z) (lit 0 : ℝ) = true then .ok none
        else .ok ((pyDiv ((u - cam.cx) * PyFloat.abs tfBaseCam.translation.z) cam.fx).bind fun x ↦
          (pyDiv ((v - cam.cy) * PyFloat.abs tfBaseCam.translation.z) cam.fy).bind fun y ↦
            doTransformPoint ⟨x, y, PyFloat.abs tfBaseCam.translation.z⟩ tfBaseCam) := rfl
  rw [hreturn, hdepth, if_neg hnot, pyDiv_eq hfx.ne', pyDiv_eq hfy.ne', Option.bind_some,
    Option.bind_some, hdo _ _ hrotation]

/-! ## There and back -/

/-- **What comes back** is stretched away from the foot of the camera. -/
theorem stretched (hdo : TransformsPoints doTransformPoint) (hdown : LooksDown tfBaseCam tfCamBase)
    (hfx : 0 < cam.fx) (hfy : 0 < cam.fy)
    (h : projectTool0ToImage cam doTransformPoint (some tool) (some tfCamBase) = some (u, v, z)) :
    z = tfBaseCam.translation.z - 1 / 100 ∧ 0 < z ∧ ∃ point,
      pixelToBaseParallelCamera cam doTransformPoint (some tfBaseCam) (some tfBaseCam) u v
        = .ok (some point) ∧
      point.x - tfBaseCam.translation.x = tfBaseCam.translation.z / z
        * (tool.translation.x - tfBaseCam.translation.x) ∧
      point.y - tfBaseCam.translation.y = tfBaseCam.translation.z / z
        * (tool.translation.y - tfBaseCam.translation.y) := by
  obtain ⟨hpos, hz, hu, hv⟩ := project_eq_some hdo hdown.rotation' h
  have hdepth := hdown.depth (toolOnPlane tool)
  rw [← hz] at hdepth
  refine ⟨by rw [hdepth, toolOnPlane, lit_plane], hpos, _,
    pixelToBase_eq hdo hdown.rotation hdown.height hfx hfy, ?_⟩
  have hback := hdown.inverse (toolOnPlane tool)
  generalize tfCamBase.apply (toolOnPlane tool) = c at hz hu hv hback
  -- the pixel gives back the ray of the point that was projected
  have hx : (u - cam.cx) * tfBaseCam.translation.z / cam.fx
      = tfBaseCam.translation.z / z * c.x := by
    rw [hu]
    field_simp
    ring
  have hy : (v - cam.cy) * tfBaseCam.translation.z / cam.fy
      = tfBaseCam.translation.z / z * c.y := by
    rw [hv]
    field_simp
    ring
  have hz' : tfBaseCam.translation.z = tfBaseCam.translation.z / z * c.z := by
    rw [← hz, div_mul_cancel₀ _ hpos.ne']
  have hray := apply_ray tfBaseCam c (tfBaseCam.translation.z / z)
  rw [← hz', hback] at hray
  rw [hx, hy]
  exact hray

/-- **The foot of the camera.** Whenever the tool has a projection, the point that comes back from
it has the tool's coordinates exactly when the tool is at the foot of the camera. -/
theorem back_projection_iff (hdo : TransformsPoints doTransformPoint)
    (hdown : LooksDown tfBaseCam tfCamBase) (hfx : 0 < cam.fx) (hfy : 0 < cam.fy)
    (h : projectTool0ToImage cam doTransformPoint (some tool) (some tfCamBase) = some (u, v, z)) :
    (∃ point, pixelToBaseParallelCamera cam doTransformPoint (some tfBaseCam) (some tfBaseCam) u v
        = .ok (some point) ∧
      point.x = tool.translation.x ∧ point.y = tool.translation.y) ↔
      tool.translation.x = tfBaseCam.translation.x ∧
        tool.translation.y = tfBaseCam.translation.y := by
  obtain ⟨hz, hpos, point, hpoint, hx, hy⟩ := stretched hdo hdown hfx hfy h
  have hstretch : tfBaseCam.translation.z / z - 1 ≠ 0 := by
    rw [div_sub_one hpos.ne', div_ne_zero_iff]
    exact ⟨by rw [hz]; norm_num, hpos.ne'⟩
  constructor
  · rintro ⟨_, hpoint', hx', hy'⟩
    rw [hpoint] at hpoint'
    cases hpoint'
    rw [hx'] at hx
    rw [hy'] at hy
    constructor
    · have hzero : (tfBaseCam.translation.z / z - 1)
          * (tool.translation.x - tfBaseCam.translation.x) = 0 := by linarith
      exact sub_eq_zero.mp ((mul_eq_zero.mp hzero).resolve_left hstretch)
    · have hzero : (tfBaseCam.translation.z / z - 1)
          * (tool.translation.y - tfBaseCam.translation.y) = 0 := by linarith
      exact sub_eq_zero.mp ((mul_eq_zero.mp hzero).resolve_left hstretch)
  · rintro ⟨hfootx, hfooty⟩
    rw [hfootx, sub_self, mul_zero, sub_eq_zero] at hx
    rw [hfooty, sub_self, mul_zero, sub_eq_zero] at hy
    exact ⟨point, hpoint, by rw [hx, hfootx], by rw [hy, hfooty]⟩

/-! ## A camera one metre above the table -/

/-- A camera above the origin, turned over about its first axis. -/
noncomputable def cameraAbove : Transform ℝ := ⟨⟨0, 0, 1⟩, ⟨1, 0, 0, 0⟩⟩

/-- It is its own inverse. -/
theorem looksDown_cameraAbove : LooksDown cameraAbove cameraAbove := by
  have hrotation : IsRotation cameraAbove.rotation := by norm_num [IsRotation, cameraAbove]
  refine ⟨hrotation, hrotation, ?_, one_pos, fun p ↦ ?_⟩
  · norm_num [rotate, cameraAbove]
  · simp [Transform.apply, rotate, cameraAbove]

/-- The tool at `x` is seen right of the middle of the image. -/
theorem project_cameraAbove {x : ℝ} (hx : 0 ≤ x) (hle : x ≤ 1) :
    projectTool0ToImage ⟨99, 99, 320, 240⟩ (fun p tf ↦ some (tf.apply p))
      (some ⟨⟨x, 0, 0⟩, ⟨0, 0, 0, 1⟩⟩) (some cameraAbove)
      = some (100 * x + 320, 240, 99 / 100) := by
  have hc : cameraAbove.apply (toolOnPlane ⟨⟨x, 0, 0⟩, ⟨0, 0, 0, 1⟩⟩) = ⟨x, 0, 99 / 100⟩ := by
    rw [toolOnPlane, lit_plane]
    norm_num [Transform.apply, rotate, cameraAbove]
  have hu : 99 * x / (99 / 100) + 320 = 100 * x + 320 := by ring
  have hlit (q : ℚ) : (lit q : ℝ) = q := rfl
  have hinside : outsideUsableImage (100 * x + 320 : ℝ) 240 = false := by
    simp only [outsideUsableImage, Bool.or_eq_false_iff, lt_eq_false_iff, hlit]
    push_cast
    refine ⟨⟨⟨?_, ?_⟩, ?_⟩, ?_⟩ <;> linarith
  have hrotation := looksDown_cameraAbove.rotation
  rw [project_eq (fun _ _ _ ↦ rfl) hrotation hc]
  dsimp only
  rw [hu, mul_zero, zero_div, zero_add, hinside, if_neg (by norm_num), if_neg (by simp)]

/-- A tool ten centimetres from the foot of the camera comes back a millimetre further out. -/
theorem tool_comes_back_elsewhere : LooksDown cameraAbove cameraAbove ∧ ∃ u v z,
    projectTool0ToImage ⟨99, 99, 320, 240⟩ (fun p tf ↦ some (tf.apply p))
        (some ⟨⟨1 / 10, 0, 0⟩, ⟨0, 0, 0, 1⟩⟩) (some cameraAbove) = some (u, v, z) ∧
      ¬∃ point, pixelToBaseParallelCamera ⟨99, 99, 320, 240⟩ (fun p tf ↦ some (tf.apply p))
          (some cameraAbove) (some cameraAbove) u v = .ok (some point) ∧
        point.x = 1 / 10 ∧ point.y = 0 := by
  have h := @project_cameraAbove (1 / 10) (by norm_num) (by norm_num)
  refine ⟨looksDown_cameraAbove, _, _, _, h, ?_⟩
  rintro ⟨point, hpoint, hx, -⟩
  obtain ⟨-, -, point', hpoint', hx', -⟩ := stretched (fun _ _ _ ↦ rfl) looksDown_cameraAbove
    (by norm_num) (by norm_num) h
  rw [hpoint] at hpoint'
  cases hpoint'
  rw [hx] at hx'
  norm_num [cameraAbove] at hx'

/-- At the foot of the camera it comes back to where it was. -/
theorem tool_comes_back_at_foot : ∃ u v z,
    projectTool0ToImage ⟨99, 99, 320, 240⟩ (fun p tf ↦ some (tf.apply p))
        (some ⟨⟨0, 0, 0⟩, ⟨0, 0, 0, 1⟩⟩) (some cameraAbove) = some (u, v, z) ∧
      ∃ point, pixelToBaseParallelCamera ⟨99, 99, 320, 240⟩ (fun p tf ↦ some (tf.apply p))
          (some cameraAbove) (some cameraAbove) u v = .ok (some point) ∧
        point.x = 0 ∧ point.y = 0 := by
  have h := @project_cameraAbove 0 le_rfl zero_le_one
  refine ⟨_, _, _, h, ?_⟩
  exact (back_projection_iff (fun _ _ _ ↦ rfl) looksDown_cameraAbove (by norm_num) (by norm_num)
    h).mpr ⟨rfl, rfl⟩

end VzletUr3e.Vision
