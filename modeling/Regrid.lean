import Regrid.Main
import Regrid.Sampler.Query
import Regrid.Text.Summary
import Regrid.Volume.Lattice
import Regrid.Proofs.Downsampling
import Regrid.Kernel.Clamp
import Regrid.Proofs.FieldOfView
import Regrid.Proofs.Rearranging
import Regrid.Proofs.Refinement
import Regrid.Proofs.RoundTrip
import Regrid.Proofs.Images
import Regrid.Proofs.Labels
import Regrid.Proofs.Counters
import Regrid.Proofs.Plans
import Regrid.Proofs.Weights
import Regrid.Proofs.Linearity
import Regrid.Proofs.Bounds
import Regrid.Proofs.Corners
import Regrid.Proofs.Trilinear
import Regrid.Proofs.Masking
import Regrid.Proofs.VoxelSizes
import Regrid.Proofs.Indices
import Regrid.Proofs.Factors
import Regrid.Proofs.SampleLattice
import Regrid.Proofs.Expressions
import Regrid.Proofs.LastRows
import Regrid.Proofs.UpsampledSizes
import Regrid.Proofs.Conversions
import Regrid.Proofs.WholeFactors
import Regrid.Proofs.Wrapping
import Regrid.Proofs.WrittenGrids
import Regrid.Proofs.Expansion
import Regrid.Proofs.Closeness
