import GridRobot.Main
import GridRobot.Proofs.Accounts
import GridRobot.Proofs.Brackets
import GridRobot.Proofs.Calling
import GridRobot.Proofs.Chronicle
import GridRobot.Proofs.Confinement
import GridRobot.Proofs.Flushing
import GridRobot.Proofs.Guards
import GridRobot.Proofs.Independence
import GridRobot.Proofs.MapFaults
import GridRobot.Proofs.Noninterference
import GridRobot.Proofs.Padding
import GridRobot.Proofs.Painting
import GridRobot.Proofs.Picturing
import GridRobot.Proofs.Preparing
import GridRobot.Proofs.Recording
import GridRobot.Proofs.Redrawing
import GridRobot.Proofs.Refinement
import GridRobot.Proofs.Registration
import GridRobot.Proofs.Reordering
import GridRobot.Proofs.Replay
import GridRobot.Proofs.Reporting
import GridRobot.Proofs.Resemblance
import GridRobot.Proofs.Showing
import GridRobot.Proofs.Shuffling
import GridRobot.Proofs.Staging
import GridRobot.Proofs.Termination
