/-!
# Changes of the clocks

When the clocks of some zones were changed: pairs of the instant of a change, in seconds of
universal time since 1970, and the distance from universal time that holds from then on. A zone
that changes its clocks by a rule every year is listed up to the first year of that rule.
-/
namespace ChatEngine.Calendar

def losAngelesChanges : List (Int × Int) :=
  [(-2717640000, -28800), (-1633269600, -25200), (-1615129200, -28800), (-1601820000, -25200),
   (-1583679600, -28800), (-880207200, -25200), (-769395600, -25200), (-765385200, -28800),
   (-687967140, -25200), (-662655600, -28800), (-620838000, -25200), (-608137200, -28800),
   (-589388400, -25200), (-576082800, -28800), (-557938800, -25200), (-544633200, -28800),
   (-526489200, -25200), (-513183600, -28800), (-495039600, -25200), (-481734000, -28800),
   (-463590000, -25200), (-450284400, -28800), (-431535600, -25200), (-418230000, -28800),
   (-400086000, -25200), (-386780400, -28800), (-368636400, -25200), (-355330800, -28800),
   (-337186800, -25200), (-323881200, -28800), (-305737200, -25200), (-292431600, -28800),
   (-273682800, -25200), (-260982000, -28800), (-242233200, -25200), (-226508400, -28800),
   (-210783600, -25200), (-195058800, -28800), (-179334000, -25200), (-163609200, -28800),
   (-147884400, -25200), (-131554800, -28800), (-116434800, -25200), (-100105200, -28800),
   (-84376800, -25200), (-68655600, -28800), (-52927200, -25200), (-37206000, -28800),
   (-21477600, -25200), (-5756400, -28800), (9972000, -25200), (25693200, -28800),
   (41421600, -25200), (57747600, -28800), (73476000, -25200), (89197200, -28800),
   (104925600, -25200), (120646800, -28800), (126698400, -25200), (152096400, -28800),
   (162381600, -25200), (183546000, -28800), (199274400, -25200), (215600400, -28800),
   (230724000, -25200), (247050000, -28800), (262778400, -25200), (278499600, -28800),
   (294228000, -25200), (309949200, -28800), (325677600, -25200), (341398800, -28800),
   (357127200, -25200), (372848400, -28800), (388576800, -25200), (404902800, -28800),
   (420026400, -25200), (436352400, -28800), (452080800, -25200), (467802000, -28800),
   (483530400, -25200), (499251600, -28800), (514980000, -25200), (530701200, -28800),
   (544615200, -25200), (562150800, -28800), (576064800, -25200), (594205200, -28800),
   (607514400, -25200), (625654800, -28800), (638964000, -25200), (657104400, -28800),
   (671018400, -25200), (688554000, -28800), (702468000, -25200), (720003600, -28800),
   (733917600, -25200), (752058000, -28800), (765367200, -25200), (783507600, -28800),
   (796816800, -25200), (814957200, -28800), (828871200, -25200), (846406800, -28800),
   (860320800, -25200), (877856400, -28800), (891770400, -25200), (909306000, -28800),
   (923220000, -25200), (941360400, -28800), (954669600, -25200), (972810000, -28800),
   (986119200, -25200), (1004259600, -28800), (1018173600, -25200), (1035709200, -28800),
   (1049623200, -25200), (1067158800, -28800), (1081072800, -25200), (1099213200, -28800),
   (1112522400, -25200), (1130662800, -28800), (1143972000, -25200), (1162112400, -28800)]

def parisChanges : List (Int × Int) :=
  [(-2486592561, 561), (-1855958961, 0), (-1689814800, 3600), (-1680397200, 0),
   (-1665363600, 3600), (-1648342800, 0), (-1635123600, 3600), (-1616893200, 0),
   (-1604278800, 3600), (-1585443600, 0), (-1574038800, 3600), (-1552266000, 0),
   (-1539997200, 3600), (-1520557200, 0), (-1507510800, 3600), (-1490576400, 0),
   (-1470618000, 3600), (-1459126800, 0), (-1444006800, 3600), (-1427677200, 0),
   (-1411952400, 3600), (-1396227600, 0), (-1379293200, 3600), (-1364778000, 0),
   (-1348448400, 3600), (-1333328400, 0), (-1316394000, 3600), (-1301274000, 0),
   (-1284339600, 3600), (-1269824400, 0), (-1253494800, 3600), (-1238374800, 0),
   (-1221440400, 3600), (-1206925200, 0), (-1191200400, 3600), (-1175475600, 0),
   (-1160355600, 3600), (-1143421200, 0), (-1127696400, 3600), (-1111971600, 0),
   (-1096851600, 3600), (-1080522000, 0), (-1063587600, 3600), (-1049072400, 0),
   (-1033347600, 3600), (-1017622800, 0), (-1002502800, 3600), (-986173200, 0),
   (-969238800, 3600), (-950490000, 0), (-942012000, 3600), (-932436000, 7200),
   (-857257200, 3600), (-844556400, 7200), (-828226800, 3600), (-812502000, 7200),
   (-800071200, 7200), (-796266000, 3600), (-781052400, 7200), (-766623600, 3600),
   (196819200, 7200), (212540400, 3600), (228877200, 7200), (243997200, 3600), (260326800, 7200),
   (276051600, 3600), (291776400, 7200), (307501200, 3600), (323830800, 7200), (338950800, 3600),
   (354675600, 7200), (370400400, 3600), (386125200, 7200), (401850000, 3600), (417574800, 7200),
   (433299600, 3600), (449024400, 7200), (465354000, 3600), (481078800, 7200), (496803600, 3600),
   (512528400, 7200), (528253200, 3600), (543978000, 7200), (559702800, 3600), (575427600, 7200),
   (591152400, 3600), (606877200, 7200), (622602000, 3600), (638326800, 7200), (654656400, 3600),
   (670381200, 7200), (686106000, 3600), (701830800, 7200), (717555600, 3600), (733280400, 7200),
   (749005200, 3600), (764730000, 7200), (780454800, 3600), (796179600, 7200), (811904400, 3600)]

def tokyoChanges : List (Int × Int) :=
  [(-2587712400, 32400), (-683802000, 36000), (-672310800, 32400), (-654771600, 36000),
   (-640861200, 32400), (-620298000, 36000), (-609411600, 32400), (-588848400, 36000),
   (-577962000, 32400)]

def kolkataChanges : List (Int × Int) :=
  [(-3645237208, 21200), (-3155694800, 19270), (-2019705670, 19800), (-891581400, 23400),
   (-872058600, 19800), (-862637400, 23400), (-764145000, 19800)]

end ChatEngine.Calendar
