/-!
# The list of public suffixes

The suffixes under which anyone can register a name, by their last label.  An
asterisk stands for one label of any kind; an exclamation mark takes a name out again.
-/

namespace Wiretap
namespace Cookie

/-- The last labels of suffixes, each with what stands before it, set apart by blanks and line
ends; an at sign is the label itself. -/
def listedSuffixes : List (String × String) :=
  [("ac", "@ com edu gov net mil org"), ("ad", "@ nom"),
  ("ae", "@ co net org sch ac gov mil blogspot nom"),
  ("aero", "@ accident-investigation accident-prevention aerobatic aeroclub aerodrome agents
aircraft airline airport air-surveillance airtraffic air-traffic-control ambulance amusement
association author ballooning broker caa cargo catering certification championship charter
civilaviation club conference consultant consulting control council crew design dgca educator
emergency engine engineer entertainment equipment exchange express federation flight fuel gliding
government groundhandling group hanggliding homebuilt insurance journal journalist leasing
logistics magazine maintenance media microlight modelling navigation parachuting paragliding
passenger-association pilot press production recreation repbody res research rotorcraft safety
scientist services show skydiving software student trader trading trainer union workinggroup
works"), ("af", "@ gov com org net edu nom"), ("ag", "@ com org net co nom"),
  ("ai", "@ off com net org uwu nom"), ("al", "@ com edu gov mil net org blogspot nom"),
  ("am", "@ co com commune net org radio blogspot neko nyaa"), ("ao", "@ ed gv og co pb it"),
  ("aq", "@"), ("ar", "@ com edu gob gov int mil musica net org tur blogspot.com"),
  ("arpa", "@ e164 in-addr ip6 iris uri urn"), ("as", "@ gov"), ("asia", "@ cloudns"),
  ("at", "@ ac co gv or sth.ac wien.funkfeuer *.futurecms *.ex.futurecms *.in.futurecms
futurehosting futuremailing *.ex.ortsinfo *.kunden.ortsinfo blogspot.co biz info priv 12hp 2ix
4lima lima-city"),
  ("au", "@ com net org edu gov asn id info conf oz act nsw nt qld sa tas vic wa act.edu
catholic.edu nsw.edu nt.edu qld.edu sa.edu tas.edu vic.edu wa.edu qld.gov sa.gov tas.gov vic.gov
wa.gov schools.nsw.edu blogspot.com mel.cloudlets.com"), ("aw", "@ com"),
  ("ax", "@ be cat es eu gg mc us xy"),
  ("az", "@ com net int gov org edu info pp mil name pro biz"),
  ("ba", "@ com edu gov mil net org blogspot"),
  ("bb", "@ biz co com edu gov info net org store tv"), ("bd", "*"),
  ("be", "@ ac webhosting blogspot cloud.interhostsolutions ezproxy.kuleuven *.transurl"),
  ("bf", "@ gov"),
  ("bg", "@ a b c d e f g h i j k l m n o p q r s t u v w x y z 0 1 2 3 4 5 6 7 8 9 blogspot
barsy"), ("bh", "@ com edu net org gov"), ("bi", "@ co com edu or org"),
  ("biz", "@ cloudns jozi dyndns for-better for-more for-some for-the selfip webhop orx mmafan
myftp no-ip dscloud"), ("bj", "@ asso barreau gouv blogspot"), ("bm", "@ com edu gov net org"),
  ("bn", "@ com edu gov net org co"),
  ("bo", "@ com edu gob int org net mil tv web academia agro arte blog bolivia ciencia cooperativa
democracia deporte ecologia economia empresa indigena industria info medicina movimiento musica
natural nombre noticias patria politica profesional plurinacional pueblo revista salud tecnologia
tksat transporte wiki"),
  ("br", "@ 9guacu abc adm adv agr aju am anani aparecida app arq art ato b barueri belem bhz bib
bio blog bmd boavista bsb campinagrande campinas caxias cim cng cnt com contagem coop coz cri
cuiaba curitiba def des det dev ecn eco edu emp enf eng esp etc eti far feira flog floripa fm fnd
fortal fot foz fst g12 geo ggf goiania gov ac.gov al.gov am.gov ap.gov ba.gov ce.gov df.gov es.gov
go.gov ma.gov mg.gov ms.gov mt.gov pa.gov pb.gov pe.gov pi.gov pr.gov rj.gov rn.gov ro.gov rr.gov
rs.gov sc.gov se.gov sp.gov to.gov gru imb ind inf jab jampa jdf joinville jor jus leg lel log
londrina macapa maceio manaus maringa mat med mil morena mp mus natal net niteroi *.nom not ntr odo
ong org osasco palmas poa ppg pro psc psi pvh qsl radio rec recife rep ribeirao rio riobranco
riopreto salvador sampa santamaria santoandre saobernardo saogonca seg sjc slg slz sorocaba srv
taxi tc tec teo the tmp trd tur tv udi vet vix vlog wiki zlg blogspot.com ac.leg al.leg am.leg
ap.leg ba.leg ce.leg df.leg es.leg go.leg ma.leg mg.leg ms.leg mt.leg pa.leg pb.leg pe.leg pi.leg
pr.leg rj.leg rn.leg ro.leg rr.leg rs.leg sc.leg se.leg sp.leg to.leg
users.scale.virtualcloud.com"), ("bs", "@ com net org edu gov we"),
  ("bt", "@ com edu gov net org"), ("bv", "@"), ("bw", "@ co org"),
  ("by", "@ gov mil com of blogspot.com mycloud nym"),
  ("bz", "@ com net org edu gov za nom nym gsj"),
  ("ca", "@ ab bc mb nb nf nl ns nt nu on pe qc sk yk gc barsy *.awdev co blogspot no-ip"),
  ("cat", "@"),
  ("cc", "@ cloudns ftpaccess game-server myphotos scrapping twmail csx fantasyleague"),
  ("cd", "@ gov"), ("cf", "@ blogspot"), ("cg", "@"),
  ("ch", "@ square7 blogspot alp1.ae.flow appengine.flow linkyard-cloud dnsking gotdns *.firenet
*.svc.firenet 12hp 2ix 4lima lima-city"),
  ("ci", "@ org or com co edu ed ac net go asso xn--aroport-bya int presse md gouv fin nl"),
  ("ck", "* !www"), ("cl", "@ aprendemas co gob gov mil blogspot nom"), ("cm", "@ co com gov net"),
  ("cn", "@ ac com edu gov net org mil xn--55qx5d xn--io0a7i xn--od0alg ah bj cq fj gd gs gz gx ha
hb he hi hl hn jl js jx ln nm nx qh sc sd sh sn sx tj xj xz yn zj hk mo tw *.compute.amazonaws.com
cn-north-1.eb.amazonaws.com cn-northwest-1.eb.amazonaws.com *.elb.amazonaws.com
s3.cn-north-1.amazonaws.com instantcloud"),
  ("co", "@ arts com edu firm gov info int mil net nom org rec web carrd crd *.otap blogspot.com
leadpages lpages mypi n4t nodum repl"),
  ("com", "@ adobeaemcloud *.dev.adobeaemcloud kasserver *.compute.amazonaws *.compute-1.amazonaws
us-east-1.amazonaws elasticbeanstalk ap-northeast-1.elasticbeanstalk
ap-northeast-2.elasticbeanstalk ap-northeast-3.elasticbeanstalk ap-south-1.elasticbeanstalk
ap-southeast-1.elasticbeanstalk ap-southeast-2.elasticbeanstalk ca-central-1.elasticbeanstalk
eu-central-1.elasticbeanstalk eu-west-1.elasticbeanstalk eu-west-2.elasticbeanstalk
eu-west-3.elasticbeanstalk sa-east-1.elasticbeanstalk us-east-1.elasticbeanstalk
us-east-2.elasticbeanstalk us-gov-west-1.elasticbeanstalk us-west-1.elasticbeanstalk
us-west-2.elasticbeanstalk *.elb.amazonaws awsglobalaccelerator s3.amazonaws
s3-ap-northeast-1.amazonaws s3-ap-northeast-2.amazonaws s3-ap-south-1.amazonaws
s3-ap-southeast-1.amazonaws s3-ap-southeast-2.amazonaws s3-ca-central-1.amazonaws
s3-eu-central-1.amazonaws s3-eu-west-1.amazonaws s3-eu-west-2.amazonaws s3-eu-west-3.amazonaws
s3-external-1.amazonaws s3-fips-us-gov-west-1.amazonaws s3-sa-east-1.amazonaws
s3-us-gov-west-1.amazonaws s3-us-east-2.amazonaws s3-us-west-1.amazonaws s3-us-west-2.amazonaws
s3.ap-northeast-2.amazonaws s3.ap-south-1.amazonaws s3.ca-central-1.amazonaws
s3.eu-central-1.amazonaws s3.eu-west-2.amazonaws s3.eu-west-3.amazonaws s3.us-east-2.amazonaws
s3.dualstack.ap-northeast-1.amazonaws s3.dualstack.ap-northeast-2.amazonaws
s3.dualstack.ap-south-1.amazonaws s3.dualstack.ap-southeast-1.amazonaws
s3.dualstack.ap-southeast-2.amazonaws s3.dualstack.ca-central-1.amazonaws
s3.dualstack.eu-central-1.amazonaws s3.dualstack.eu-west-1.amazonaws
s3.dualstack.eu-west-2.amazonaws s3.dualstack.eu-west-3.amazonaws s3.dualstack.sa-east-1.amazonaws
s3.dualstack.us-east-1.amazonaws s3.dualstack.us-east-2.amazonaws s3-website-us-east-1.amazonaws
s3-website-us-west-1.amazonaws s3-website-us-west-2.amazonaws s3-website-ap-northeast-1.amazonaws
s3-website-ap-southeast-1.amazonaws s3-website-ap-southeast-2.amazonaws
s3-website-eu-west-1.amazonaws s3-website-sa-east-1.amazonaws s3-website.ap-northeast-2.amazonaws
s3-website.ap-south-1.amazonaws s3-website.ca-central-1.amazonaws s3-website.eu-central-1.amazonaws
s3-website.eu-west-2.amazonaws s3-website.eu-west-3.amazonaws s3-website.us-east-2.amazonaws
appspacehosted appspaceusercontent on-aptible myasustor balena-devices betainabox boutir bplaced
cafjs br cn de eu jpn mex ru sa uk us za ar gb hu kr no qc uy africa gr co jdevcloud wpdevcloud
cloudcontrolled cloudcontrolapp trycloudflare *.customer-oci *.oci.customer-oci *.ocp.customer-oci
*.ocs.customer-oci dattolocal dattorelay dattoweb mydatto builtwithdark drayddns dreamhosters
mydrobo dyndns-at-home dyndns-at-work dyndns-blog dyndns-free dyndns-home dyndns-ip dyndns-mail
dyndns-office dyndns-pics dyndns-remote dyndns-server dyndns-web dyndns-wiki dyndns-work blogdns
cechire dnsalias dnsdojo doesntexist dontexist doomdns dyn-o-saur dynalias est-a-la-maison
est-a-la-masion est-le-patron est-mon-blogueur from-ak from-al from-ar from-ca from-ct from-dc
from-de from-fl from-ga from-hi from-ia from-id from-il from-in from-ks from-ky from-ma from-md
from-mi from-mn from-mo from-ms from-mt from-nc from-nd from-ne from-nh from-nj from-nm from-nv
from-oh from-ok from-or from-pa from-pr from-ri from-sc from-sd from-tn from-tx from-ut from-va
from-vt from-wa from-wi from-wv from-wy getmyip gotdns hobby-site homelinux homeunix iamallama
is-a-anarchist is-a-blogger is-a-bookkeeper is-a-bulls-fan is-a-caterer is-a-chef is-a-conservative
is-a-cpa is-a-cubicle-slave is-a-democrat is-a-designer is-a-doctor is-a-financialadvisor is-a-geek
is-a-green is-a-guru is-a-hard-worker is-a-hunter is-a-landscaper is-a-lawyer is-a-liberal
is-a-libertarian is-a-llama is-a-musician is-a-nascarfan is-a-nurse is-a-painter
is-a-personaltrainer is-a-photographer is-a-player is-a-republican is-a-rockstar is-a-socialist
is-a-student is-a-teacher is-a-techie is-a-therapist is-an-accountant is-an-actor is-an-actress
is-an-anarchist is-an-artist is-an-engineer is-an-entertainer is-certified is-gone is-into-anime
is-into-cars is-into-cartoons is-into-games is-leet is-not-certified is-slick is-uberleet
is-with-theband isa-geek isa-hockeynut issmarterthanyou likes-pie likescandy neat-url
saves-the-whales selfip sells-for-less sells-for-u servebbs simple-url space-to-rent teaches-yoga
writesthisblog ddnsfree ddnsgeek giize gleeze kozow loseyourip ooguy theworkpc mytuleap
eu-1.evennode eu-2.evennode eu-3.evennode eu-4.evennode us-1.evennode us-2.evennode us-3.evennode
us-4.evennode onfabrica apps.fbsbx fastly-terrarium fastvps-server mydobiss firebaseapp
framercanvas freebox-os freeboxos freemyip gentapps gentlentapis githubusercontent *.0emm appspot
*.r.appspot codespot googleapis googlecode pagespeedmobilizer publishproxy withgoogle withyoutube
blogspot awsmppl herokuapp herokussl myravendb smushcdn wphostedmail wpmucdn pixolino clicketcloud
ams.cloudswitches au.cloudswitches sg.cloudswitches dopaas elastyco nv.elastyco hidora
paas.hosted-by-previder rag-cloud.hosteur rag-cloud-ch.hosteur jcloud.ik-server
jcloud-ver-jpc.ik-server demo.jelastic kilatiron paas.massivegrid jed.wafaicloud lon.wafaicloud
ryd.wafaicloud *.cns.joyent lpusercontent app.lmpm members.linode *.nodebalancer.linode
*.linodeobjects barsycenter barsyonline miniserver meteorapp eu.meteorapp hostedpi
customer.mythic-beasts caracal.mythic-beasts fentiger.mythic-beasts lynx.mythic-beasts
ocelot.mythic-beasts oncilla.mythic-beasts onza.mythic-beasts sphinx.mythic-beasts vs.mythic-beasts
x.mythic-beasts yali.mythic-beasts 4u nfshost 001www ddnslive myiphost blogsyte ciscofreak
damnserver ditchyourip dnsiskinky dynns geekgalaxy health-carereform homesecuritymac homesecuritypc
myactivedirectory mysecuritycamera net-freaks onthewifi point2this quicksytes securitytactics
serveexchange servehumour servep2p servesarcasm stufftoread unusualperson workisboring 3utilities
ddnsking myvnc servebeer servecounterstrike serveftp servegame servehalflife servehttp serveirc
servemp3 servepics servequake static.observableusercontent orsites operaunite skygearapp
outsystemscloud ownprovider pgfog pagefrontapp pagexl gotpantheon platter-app pleskns xen.prgmr
qualifioapp qbuser qa2 dev-myqnapcloud alpha-myqnapcloud myqnapcloud *.quipelements rackmaze
rhcloud app.render onrender logoip scrysec firewall-gateway myshopblocks myshopify shopitsite 1kapp
appchizi applinzi sinaapp vipsinaapp bounty-full alpha.bounty-full beta.bounty-full try-snowplow
stackhero-network playstation-cloud api.stdlib temp-dns dsmynas familyds thingdustdata bloxcms
townnews-staging hk wafflecell idnblogger indowapblog remotewd pages.wiardweb woltlab-demo xnbay
u2.xnbay u2-local.xnbay yolasite wpenginepowered js.wpenginepowered impertrixcdn impertrix"),
  ("coop", "@"), ("cr", "@ ac co ed fi go or sa"), ("cu", "@ com edu org net gov inf"),
  ("cv", "@ blogspot"), ("cw", "@ com edu net org"), ("cx", "@ gov ath info"),
  ("cy", "@ ac biz com ekloges gov ltd name net org parliament press pro tm blogspot.com
j.scaleforce.com"),
  ("cz", "@ co realm e4 blogspot *.cloud.metacentrum custom.metacentrum flt.cloud.muni
usr.cloud.muni"),
  ("de", "@ bplaced square7 com dyn.cosidns dynamisches-dns dnsupdater internet-dns l-o-g-i-n
dnshome fuettertdasnetz isteingeek istmein lebtimnetz leitungsen traeumtgerade ddnss dyn.ddnss
dyndns.ddnss dyndns1 dyn-ip24 home-webserver dyn.home-webserver myhome-server goip blogspot
xn--gnstigbestellen-zvb xn--gnstigliefern-wob dyn-berlin in-berlin in-brb in-butter in-dsl in-vpn
mein-iserv schulserver test-iserv keymachine git-repos lcube-server svn-repos barsy logoip
firewall-gateway my-gateway my-router spdns customer.speedpartner taifun-dns 12hp 2ix 4lima
lima-city dd-dns dray-dns draydns dyn-vpn dynvpn mein-vigor my-vigor my-wan syno-ds
synology-diskstation synology-ds *.uberspace virtualuser virtual-user community-pro
diskussionsbereich"), ("dj", "@"), ("dk", "@ biz co firm reg store blogspot"),
  ("dm", "@ com net org edu gov"), ("do", "@ art com edu gob gov mil net org sld web"),
  ("dz", "@ art asso com edu gov org net pol soc tm"),
  ("ec", "@ com info net fin k12 med pro org edu gov gob mil nym"), ("edu", "@ git-pages.rit"),
  ("ee", "@ edu gov riik lib med com pri aip org fie blogspot.com"),
  ("eg", "@ com edu eun gov mil name net org sci blogspot.com"), ("er", "*"),
  ("es", "@ com nom org gob edu blogspot.com"), ("et", "@ com gov org edu biz name info net"),
  ("eu", "@ mycd cloudns jelastic.dogado paas.leviracloud barsy wellbeingzone spdns *.transurl
diskstation"),
  ("fi", "@ aland dy blogspot xn--hkkinen-5wa iki fi.cloudplatform demo.datacenter
paas.datacenter"), ("fj", "@ ac biz com gov info mil name net org pro"), ("fk", "*"),
  ("fm", "com edu net org @ radio"), ("fo", "@"),
  ("fr", "@ asso com gouv nom prd tm aeroport avocat avoues cci chambagri chirurgiens-dentistes
experts-comptables geometre-expert greta huissier-justice medecin notaires pharmacien port
veterinaire en-root fbx-os fbxos freebox-os freeboxos blogspot on-web
chirurgiens-dentistes-en-france"), ("ga", "@"), ("gb", "@"), ("gd", "edu gov @ nom"),
  ("ge", "@ com edu gov org mil net pvt nom"), ("gf", "@"),
  ("gg", "@ co net org kaas cya panel daemon.panel"), ("gh", "@ com edu gov org mil"),
  ("gi", "@ com ltd gov mod edu org"), ("gl", "@ co com edu net org biz nom xx"), ("gm", "@"),
  ("gn", "@ ac com edu gov org net"), ("gov", "@"), ("gp", "@ com net mobi edu org asso app"),
  ("gq", "@"), ("gr", "@ com edu net org gov blogspot nym"), ("gs", "@"),
  ("gt", "@ com edu gob ind mil net org nom blog de to"),
  ("gu", "@ com edu gov guam info net org web"), ("gw", "@"),
  ("gy", "@ co com edu gov net org nym be"),
  ("hk", "@ com edu gov idv net org xn--55qx5d xn--wcvs22d xn--lcvr32d xn--mxtq1m xn--gmqw5a
xn--ciqpn xn--gmq050i xn--zf0avx xn--io0a7i xn--mk0axi xn--od0alg xn--od0aq3b xn--tn0ag xn--uc0atv
xn--uc0ay4a blogspot secaas nym ltd inc"), ("hm", "@"), ("hn", "@ com edu org net mil gob nom cc"),
  ("hr", "@ iz from name com blogspot free"),
  ("ht", "@ com shop firm info adult net pro org med art coop pol asso edu rel gouv perso"),
  ("hu", "@ co info org priv sport tm 2000 agrar bolt casino city erotica erotika film forum games
hotel ingatlan jogasz konyvelo lakas media news reklam sex shop suli szex tozsde utazas video
blogspot"),
  ("id", "@ ac biz co desa go mil my net or ponpes sch web flap blogspot.co forte bloger wblog"),
  ("ie", "@ gov blogspot nym"), ("il", "@ ac co gov idf k12 muni net org blogspot.co"),
  ("im", "@ ac co com ltd.co net org plc.co tt tv ro nom"),
  ("in", "@ co firm net org gen ind nic ac edu res gov mil web cloudns blogspot barsy"),
  ("info", "@ cloudns dynamic-dns dyndns barrel-of-knowledge barrell-of-knowledge for-our groks-the
groks-this here-for-more knowsitall selfip webhop barsy mayfirst forumz nsupdate dvrcam
ilovecollege no-ip dnsupdate v-info"), ("int", "@ eu"),
  ("io", "@ com apigee b-data backplaneapp app.banzaicloud *.backyards.banzaicloud boxfuse
browsersafetymark uk0.bigv cleverapps dyndns.dappnode dedyn drud definima enonic customer.enonic
fh-muenster shw ghost github gitlab lolipop hasura-app hostyhosting *.moonscale jele
ocs.opusinteractive cloud.unispace cloud-de.unispace cloud-fr1.unispace webthings loginline barsy
*.azurecontainer ngrok stage.nodeart nodum nid pantheonsite dyn53 protonet qoto qcx *.sys.qcx
vaporcloud g.vbrplsbx *.on-k3s *.on-rio readthedocs resindevice devices.resinstaging hzc sandcats
shiftedit mo-siemens apps.lair *.stolos spacekit utwente *.s5y telebit cust.dev.thingdust
cust.disrec.thingdust cust.prod.thingdust cust.testing.thingdust 2038 wedeploy basicserver
virtualserver"), ("iq", "@ gov edu mil com org net"),
  ("ir", "@ ac co gov id net org sch xn--mgba3a4f16a xn--mgba3a4fra"),
  ("is", "@ net com edu gov org int cupcake blogspot"),
  ("it", "@ gov edu abr abruzzo aosta-valley aostavalley bas basilicata cal calabria cam campania
emilia-romagna emiliaromagna emr friuli-v-giulia friuli-ve-giulia friuli-vegiulia
friuli-venezia-giulia friuli-veneziagiulia friuli-vgiulia friuliv-giulia friulive-giulia
friulivegiulia friulivenezia-giulia friuliveneziagiulia friulivgiulia fvg laz lazio lig liguria lom
lombardia lombardy lucania mar marche mol molise piedmont piemonte pmn pug puglia sar sardegna
sardinia sic sicilia sicily taa tos toscana trentin-sud-tirol xn--trentin-sd-tirol-rzb
trentin-sudtirol xn--trentin-sdtirol-7vb trentin-sued-tirol trentin-suedtirol trentino-a-adige
trentino-aadige trentino-alto-adige trentino-altoadige trentino-s-tirol trentino-stirol
trentino-sud-tirol xn--trentino-sd-tirol-c3b trentino-sudtirol xn--trentino-sdtirol-szb
trentino-sued-tirol trentino-suedtirol trentino trentinoa-adige trentinoaadige trentinoalto-adige
trentinoaltoadige trentinos-tirol trentinostirol trentinosud-tirol xn--trentinosd-tirol-rzb
trentinosudtirol xn--trentinosdtirol-7vb trentinosued-tirol trentinosuedtirol trentinsud-tirol
xn--trentinsd-tirol-6vb trentinsudtirol xn--trentinsdtirol-nsb trentinsued-tirol trentinsuedtirol
tuscany umb umbria val-d-aosta val-daosta vald-aosta valdaosta valle-aosta valle-d-aosta
valle-daosta valleaosta valled-aosta valledaosta vallee-aoste xn--valle-aoste-ebb vallee-d-aoste
xn--valle-d-aoste-ehb valleeaoste xn--valleaoste-e7a valleedaoste xn--valledaoste-ebb vao vda ven
veneto ag agrigento al alessandria alto-adige altoadige an ancona andria-barletta-trani
andria-trani-barletta andriabarlettatrani andriatranibarletta ao aosta aoste ap aq aquila ar arezzo
ascoli-piceno ascolipiceno asti at av avellino ba balsan-sudtirol xn--balsan-sdtirol-nsb
balsan-suedtirol balsan bari barletta-trani-andria barlettatraniandria belluno benevento bergamo bg
bi biella bl bn bo bologna bolzano-altoadige bolzano bozen-sudtirol xn--bozen-sdtirol-2ob
bozen-suedtirol bozen br brescia brindisi bs bt bulsan-sudtirol xn--bulsan-sdtirol-nsb
bulsan-suedtirol bulsan bz ca cagliari caltanissetta campidano-medio campidanomedio campobasso
carbonia-iglesias carboniaiglesias carrara-massa carraramassa caserta catania catanzaro cb ce
cesena-forli xn--cesena-forl-mcb cesenaforli xn--cesenaforl-i8a ch chieti ci cl cn co como cosenza
cr cremona crotone cs ct cuneo cz dell-ogliastra dellogliastra en enna fc fe fermo ferrara fg fi
firenze florence fm foggia forli-cesena xn--forl-cesena-fcb forlicesena xn--forlcesena-c8a fr
frosinone ge genoa genova go gorizia gr grosseto iglesias-carbonia iglesiascarbonia im imperia is
isernia kr la-spezia laquila laspezia latina lc le lecce lecco li livorno lo lodi lt lu lucca
macerata mantova massa-carrara massacarrara matera mb mc me medio-campidano mediocampidano messina
mi milan milano mn mo modena monza-brianza monza-e-della-brianza monza monzabrianza monzaebrianza
monzaedellabrianza ms mt na naples napoli no novara nu nuoro og ogliastra olbia-tempio olbiatempio
or oristano ot pa padova padua palermo parma pavia pc pd pe perugia pesaro-urbino pesarourbino
pescara pg pi piacenza pisa pistoia pn po pordenone potenza pr prato pt pu pv pz ra ragusa ravenna
rc re reggio-calabria reggio-emilia reggiocalabria reggioemilia rg ri rieti rimini rm rn ro roma
rome rovigo sa salerno sassari savona si siena siracusa so sondrio sp sr ss suedtirol
xn--sdtirol-n2a sv ta taranto te tempio-olbia tempioolbia teramo terni tn to torino tp tr
trani-andria-barletta trani-barletta-andria traniandriabarletta tranibarlettaandria trapani trento
treviso trieste ts turin tv ud udine urbino-pesaro urbinopesaro va varese vb vc ve venezia venice
verbania vercelli verona vi vibo-valentia vibovalentia vicenza viterbo vr vs vt vv blogspot jc.neen
cloud.jelastic.open.tim 16-b 32-b 64-b syncloud"), ("je", "@ co net org of"), ("jm", "*"),
  ("jo", "@ com org net edu sch gov mil name"), ("jobs", "@"),
  ("jp", "@ ac ad co ed go gr lg ne or aichi akita aomori chiba ehime fukui fukuoka fukushima gifu
gunma hiroshima hokkaido hyogo ibaraki ishikawa iwate kagawa kagoshima kanagawa kochi kumamoto
kyoto mie miyagi miyazaki nagano nagasaki nara niigata oita okayama okinawa osaka saga saitama
shiga shimane shizuoka tochigi tokushima tokyo tottori toyama wakayama yamagata yamaguchi yamanashi
xn--4pvxs xn--vgu402c xn--c3s14m xn--f6qx53a xn--8pvr4u xn--uist22h xn--djrs72d6uy xn--mkru45i
xn--0trq7p7nn xn--8ltr62k xn--2m4a15e xn--efvn9s xn--32vp30h xn--4it797k xn--1lqs71d xn--5rtp49c
xn--5js045d xn--ehqz56n xn--1lqs03n xn--qqqt11m xn--kbrq7o xn--pssu33l xn--ntsq17g xn--uisz3g
xn--6btw5a xn--1ctwo xn--6orx2r xn--rht61e xn--rht27z xn--djty4k xn--nit225k xn--rht3d xn--klty5x
xn--kltx9a xn--kltp7d xn--uuwu58a xn--zbx025d xn--ntso0iqx3a xn--elqq16h xn--4it168d xn--klt787d
xn--rny31h xn--7t0a264c xn--5rtq34k xn--k7yn95e xn--tor131o xn--d5qv7z876c *.kawasaki *.kitakyushu
*.kobe *.nagoya *.sapporo *.sendai *.yokohama !city.kawasaki !city.kitakyushu !city.kobe
!city.nagoya !city.sapporo !city.sendai !city.yokohama aisai.aichi ama.aichi anjo.aichi asuke.aichi
chiryu.aichi chita.aichi fuso.aichi gamagori.aichi handa.aichi hazu.aichi hekinan.aichi
higashiura.aichi ichinomiya.aichi inazawa.aichi inuyama.aichi isshiki.aichi iwakura.aichi
kanie.aichi kariya.aichi kasugai.aichi kira.aichi kiyosu.aichi komaki.aichi konan.aichi kota.aichi
mihama.aichi miyoshi.aichi nishio.aichi nisshin.aichi obu.aichi oguchi.aichi oharu.aichi
okazaki.aichi owariasahi.aichi seto.aichi shikatsu.aichi shinshiro.aichi shitara.aichi tahara.aichi
takahama.aichi tobishima.aichi toei.aichi togo.aichi tokai.aichi tokoname.aichi toyoake.aichi
toyohashi.aichi toyokawa.aichi toyone.aichi toyota.aichi tsushima.aichi yatomi.aichi akita.akita
daisen.akita fujisato.akita gojome.akita hachirogata.akita happou.akita higashinaruse.akita
honjo.akita honjyo.akita ikawa.akita kamikoani.akita kamioka.akita katagami.akita kazuno.akita
kitaakita.akita kosaka.akita kyowa.akita misato.akita mitane.akita moriyoshi.akita nikaho.akita
noshiro.akita odate.akita oga.akita ogata.akita semboku.akita yokote.akita yurihonjo.akita
aomori.aomori gonohe.aomori hachinohe.aomori hashikami.aomori hiranai.aomori hirosaki.aomori
itayanagi.aomori kuroishi.aomori misawa.aomori mutsu.aomori nakadomari.aomori noheji.aomori
oirase.aomori owani.aomori rokunohe.aomori sannohe.aomori shichinohe.aomori shingo.aomori
takko.aomori towada.aomori tsugaru.aomori tsuruta.aomori abiko.chiba asahi.chiba chonan.chiba
chosei.chiba choshi.chiba chuo.chiba funabashi.chiba futtsu.chiba hanamigawa.chiba ichihara.chiba
ichikawa.chiba ichinomiya.chiba inzai.chiba isumi.chiba kamagaya.chiba kamogawa.chiba kashiwa.chiba
katori.chiba katsuura.chiba kimitsu.chiba kisarazu.chiba kozaki.chiba kujukuri.chiba kyonan.chiba
matsudo.chiba midori.chiba mihama.chiba minamiboso.chiba mobara.chiba mutsuzawa.chiba nagara.chiba
nagareyama.chiba narashino.chiba narita.chiba noda.chiba oamishirasato.chiba omigawa.chiba
onjuku.chiba otaki.chiba sakae.chiba sakura.chiba shimofusa.chiba shirako.chiba shiroi.chiba
shisui.chiba sodegaura.chiba sosa.chiba tako.chiba tateyama.chiba togane.chiba tohnosho.chiba
tomisato.chiba urayasu.chiba yachimata.chiba yachiyo.chiba yokaichiba.chiba yokoshibahikari.chiba
yotsukaido.chiba ainan.ehime honai.ehime ikata.ehime imabari.ehime iyo.ehime kamijima.ehime
kihoku.ehime kumakogen.ehime masaki.ehime matsuno.ehime matsuyama.ehime namikata.ehime
niihama.ehime ozu.ehime saijo.ehime seiyo.ehime shikokuchuo.ehime tobe.ehime toon.ehime
uchiko.ehime uwajima.ehime yawatahama.ehime echizen.fukui eiheiji.fukui fukui.fukui ikeda.fukui
katsuyama.fukui mihama.fukui minamiechizen.fukui obama.fukui ohi.fukui ono.fukui sabae.fukui
sakai.fukui takahama.fukui tsuruga.fukui wakasa.fukui ashiya.fukuoka buzen.fukuoka chikugo.fukuoka
chikuho.fukuoka chikujo.fukuoka chikushino.fukuoka chikuzen.fukuoka chuo.fukuoka dazaifu.fukuoka
fukuchi.fukuoka hakata.fukuoka higashi.fukuoka hirokawa.fukuoka hisayama.fukuoka iizuka.fukuoka
inatsuki.fukuoka kaho.fukuoka kasuga.fukuoka kasuya.fukuoka kawara.fukuoka keisen.fukuoka
koga.fukuoka kurate.fukuoka kurogi.fukuoka kurume.fukuoka minami.fukuoka miyako.fukuoka
miyama.fukuoka miyawaka.fukuoka mizumaki.fukuoka munakata.fukuoka nakagawa.fukuoka nakama.fukuoka
nishi.fukuoka nogata.fukuoka ogori.fukuoka okagaki.fukuoka okawa.fukuoka oki.fukuoka omuta.fukuoka
onga.fukuoka onojo.fukuoka oto.fukuoka saigawa.fukuoka sasaguri.fukuoka shingu.fukuoka
shinyoshitomi.fukuoka shonai.fukuoka soeda.fukuoka sue.fukuoka tachiarai.fukuoka tagawa.fukuoka
takata.fukuoka toho.fukuoka toyotsu.fukuoka tsuiki.fukuoka ukiha.fukuoka umi.fukuoka usui.fukuoka
yamada.fukuoka yame.fukuoka yanagawa.fukuoka yukuhashi.fukuoka aizubange.fukushima
aizumisato.fukushima aizuwakamatsu.fukushima asakawa.fukushima bandai.fukushima date.fukushima
fukushima.fukushima furudono.fukushima futaba.fukushima hanawa.fukushima higashi.fukushima
hirata.fukushima hirono.fukushima iitate.fukushima inawashiro.fukushima ishikawa.fukushima
iwaki.fukushima izumizaki.fukushima kagamiishi.fukushima kaneyama.fukushima kawamata.fukushima
kitakata.fukushima kitashiobara.fukushima koori.fukushima koriyama.fukushima kunimi.fukushima
miharu.fukushima mishima.fukushima namie.fukushima nango.fukushima nishiaizu.fukushima
nishigo.fukushima okuma.fukushima omotego.fukushima ono.fukushima otama.fukushima
samegawa.fukushima shimogo.fukushima shirakawa.fukushima showa.fukushima soma.fukushima
sukagawa.fukushima taishin.fukushima tamakawa.fukushima tanagura.fukushima tenei.fukushima
yabuki.fukushima yamato.fukushima yamatsuri.fukushima yanaizu.fukushima yugawa.fukushima
anpachi.gifu ena.gifu gifu.gifu ginan.gifu godo.gifu gujo.gifu hashima.gifu hichiso.gifu hida.gifu
higashishirakawa.gifu ibigawa.gifu ikeda.gifu kakamigahara.gifu kani.gifu kasahara.gifu
kasamatsu.gifu kawaue.gifu kitagata.gifu mino.gifu minokamo.gifu mitake.gifu mizunami.gifu
motosu.gifu nakatsugawa.gifu ogaki.gifu sakahogi.gifu seki.gifu sekigahara.gifu shirakawa.gifu
tajimi.gifu takayama.gifu tarui.gifu toki.gifu tomika.gifu wanouchi.gifu yamagata.gifu yaotsu.gifu
yoro.gifu annaka.gunma chiyoda.gunma fujioka.gunma higashiagatsuma.gunma isesaki.gunma
itakura.gunma kanna.gunma kanra.gunma katashina.gunma kawaba.gunma kiryu.gunma kusatsu.gunma
maebashi.gunma meiwa.gunma midori.gunma minakami.gunma naganohara.gunma nakanojo.gunma
nanmoku.gunma numata.gunma oizumi.gunma ora.gunma ota.gunma shibukawa.gunma shimonita.gunma
shinto.gunma showa.gunma takasaki.gunma takayama.gunma tamamura.gunma tatebayashi.gunma
tomioka.gunma tsukiyono.gunma tsumagoi.gunma ueno.gunma yoshioka.gunma asaminami.hiroshima
daiwa.hiroshima etajima.hiroshima fuchu.hiroshima fukuyama.hiroshima hatsukaichi.hiroshima
higashihiroshima.hiroshima hongo.hiroshima jinsekikogen.hiroshima kaita.hiroshima kui.hiroshima
kumano.hiroshima kure.hiroshima mihara.hiroshima miyoshi.hiroshima naka.hiroshima
onomichi.hiroshima osakikamijima.hiroshima otake.hiroshima saka.hiroshima sera.hiroshima
seranishi.hiroshima shinichi.hiroshima shobara.hiroshima takehara.hiroshima abashiri.hokkaido
abira.hokkaido aibetsu.hokkaido akabira.hokkaido akkeshi.hokkaido asahikawa.hokkaido
ashibetsu.hokkaido ashoro.hokkaido assabu.hokkaido atsuma.hokkaido bibai.hokkaido biei.hokkaido
bifuka.hokkaido bihoro.hokkaido biratori.hokkaido chippubetsu.hokkaido chitose.hokkaido
date.hokkaido ebetsu.hokkaido embetsu.hokkaido eniwa.hokkaido erimo.hokkaido esan.hokkaido
esashi.hokkaido fukagawa.hokkaido fukushima.hokkaido furano.hokkaido furubira.hokkaido
haboro.hokkaido hakodate.hokkaido hamatonbetsu.hokkaido hidaka.hokkaido higashikagura.hokkaido
higashikawa.hokkaido hiroo.hokkaido hokuryu.hokkaido hokuto.hokkaido honbetsu.hokkaido
horokanai.hokkaido horonobe.hokkaido ikeda.hokkaido imakane.hokkaido ishikari.hokkaido
iwamizawa.hokkaido iwanai.hokkaido kamifurano.hokkaido kamikawa.hokkaido kamishihoro.hokkaido
kamisunagawa.hokkaido kamoenai.hokkaido kayabe.hokkaido kembuchi.hokkaido kikonai.hokkaido
kimobetsu.hokkaido kitahiroshima.hokkaido kitami.hokkaido kiyosato.hokkaido koshimizu.hokkaido
kunneppu.hokkaido kuriyama.hokkaido kuromatsunai.hokkaido kushiro.hokkaido kutchan.hokkaido
kyowa.hokkaido mashike.hokkaido matsumae.hokkaido mikasa.hokkaido minamifurano.hokkaido
mombetsu.hokkaido moseushi.hokkaido mukawa.hokkaido muroran.hokkaido naie.hokkaido
nakagawa.hokkaido nakasatsunai.hokkaido nakatombetsu.hokkaido nanae.hokkaido nanporo.hokkaido
nayoro.hokkaido nemuro.hokkaido niikappu.hokkaido niki.hokkaido nishiokoppe.hokkaido
noboribetsu.hokkaido numata.hokkaido obihiro.hokkaido obira.hokkaido oketo.hokkaido okoppe.hokkaido
otaru.hokkaido otobe.hokkaido otofuke.hokkaido otoineppu.hokkaido oumu.hokkaido ozora.hokkaido
pippu.hokkaido rankoshi.hokkaido rebun.hokkaido rikubetsu.hokkaido rishiri.hokkaido
rishirifuji.hokkaido saroma.hokkaido sarufutsu.hokkaido shakotan.hokkaido shari.hokkaido
shibecha.hokkaido shibetsu.hokkaido shikabe.hokkaido shikaoi.hokkaido shimamaki.hokkaido
shimizu.hokkaido shimokawa.hokkaido shinshinotsu.hokkaido shintoku.hokkaido shiranuka.hokkaido
shiraoi.hokkaido shiriuchi.hokkaido sobetsu.hokkaido sunagawa.hokkaido taiki.hokkaido
takasu.hokkaido takikawa.hokkaido takinoue.hokkaido teshikaga.hokkaido tobetsu.hokkaido
tohma.hokkaido tomakomai.hokkaido tomari.hokkaido toya.hokkaido toyako.hokkaido toyotomi.hokkaido
toyoura.hokkaido tsubetsu.hokkaido tsukigata.hokkaido urakawa.hokkaido urausu.hokkaido
uryu.hokkaido utashinai.hokkaido wakkanai.hokkaido wassamu.hokkaido yakumo.hokkaido yoichi.hokkaido
aioi.hyogo akashi.hyogo ako.hyogo amagasaki.hyogo aogaki.hyogo asago.hyogo ashiya.hyogo awaji.hyogo
fukusaki.hyogo goshiki.hyogo harima.hyogo himeji.hyogo ichikawa.hyogo inagawa.hyogo itami.hyogo
kakogawa.hyogo kamigori.hyogo kamikawa.hyogo kasai.hyogo kasuga.hyogo kawanishi.hyogo miki.hyogo
minamiawaji.hyogo nishinomiya.hyogo nishiwaki.hyogo ono.hyogo sanda.hyogo sannan.hyogo
sasayama.hyogo sayo.hyogo shingu.hyogo shinonsen.hyogo shiso.hyogo sumoto.hyogo taishi.hyogo
taka.hyogo takarazuka.hyogo takasago.hyogo takino.hyogo tamba.hyogo tatsuno.hyogo toyooka.hyogo
yabu.hyogo yashiro.hyogo yoka.hyogo yokawa.hyogo ami.ibaraki asahi.ibaraki bando.ibaraki
chikusei.ibaraki daigo.ibaraki fujishiro.ibaraki hitachi.ibaraki hitachinaka.ibaraki
hitachiomiya.ibaraki hitachiota.ibaraki ibaraki.ibaraki ina.ibaraki inashiki.ibaraki itako.ibaraki
iwama.ibaraki joso.ibaraki kamisu.ibaraki kasama.ibaraki kashima.ibaraki kasumigaura.ibaraki
koga.ibaraki miho.ibaraki mito.ibaraki moriya.ibaraki naka.ibaraki namegata.ibaraki oarai.ibaraki
ogawa.ibaraki omitama.ibaraki ryugasaki.ibaraki sakai.ibaraki sakuragawa.ibaraki shimodate.ibaraki
shimotsuma.ibaraki shirosato.ibaraki sowa.ibaraki suifu.ibaraki takahagi.ibaraki
tamatsukuri.ibaraki tokai.ibaraki tomobe.ibaraki tone.ibaraki toride.ibaraki tsuchiura.ibaraki
tsukuba.ibaraki uchihara.ibaraki ushiku.ibaraki yachiyo.ibaraki yamagata.ibaraki yawara.ibaraki
yuki.ibaraki anamizu.ishikawa hakui.ishikawa hakusan.ishikawa kaga.ishikawa kahoku.ishikawa
kanazawa.ishikawa kawakita.ishikawa komatsu.ishikawa nakanoto.ishikawa nanao.ishikawa nomi.ishikawa
nonoichi.ishikawa noto.ishikawa shika.ishikawa suzu.ishikawa tsubata.ishikawa tsurugi.ishikawa
uchinada.ishikawa wajima.ishikawa fudai.iwate fujisawa.iwate hanamaki.iwate hiraizumi.iwate
hirono.iwate ichinohe.iwate ichinoseki.iwate iwaizumi.iwate iwate.iwate joboji.iwate kamaishi.iwate
kanegasaki.iwate karumai.iwate kawai.iwate kitakami.iwate kuji.iwate kunohe.iwate kuzumaki.iwate
miyako.iwate mizusawa.iwate morioka.iwate ninohe.iwate noda.iwate ofunato.iwate oshu.iwate
otsuchi.iwate rikuzentakata.iwate shiwa.iwate shizukuishi.iwate sumita.iwate tanohata.iwate
tono.iwate yahaba.iwate yamada.iwate ayagawa.kagawa higashikagawa.kagawa kanonji.kagawa
kotohira.kagawa manno.kagawa marugame.kagawa mitoyo.kagawa naoshima.kagawa sanuki.kagawa
tadotsu.kagawa takamatsu.kagawa tonosho.kagawa uchinomi.kagawa utazu.kagawa zentsuji.kagawa
akune.kagoshima amami.kagoshima hioki.kagoshima isa.kagoshima isen.kagoshima izumi.kagoshima
kagoshima.kagoshima kanoya.kagoshima kawanabe.kagoshima kinko.kagoshima kouyama.kagoshima
makurazaki.kagoshima matsumoto.kagoshima minamitane.kagoshima nakatane.kagoshima
nishinoomote.kagoshima satsumasendai.kagoshima soo.kagoshima tarumizu.kagoshima yusui.kagoshima
aikawa.kanagawa atsugi.kanagawa ayase.kanagawa chigasaki.kanagawa ebina.kanagawa fujisawa.kanagawa
hadano.kanagawa hakone.kanagawa hiratsuka.kanagawa isehara.kanagawa kaisei.kanagawa
kamakura.kanagawa kiyokawa.kanagawa matsuda.kanagawa minamiashigara.kanagawa miura.kanagawa
nakai.kanagawa ninomiya.kanagawa odawara.kanagawa oi.kanagawa oiso.kanagawa sagamihara.kanagawa
samukawa.kanagawa tsukui.kanagawa yamakita.kanagawa yamato.kanagawa yokosuka.kanagawa
yugawara.kanagawa zama.kanagawa zushi.kanagawa aki.kochi geisei.kochi hidaka.kochi
higashitsuno.kochi ino.kochi kagami.kochi kami.kochi kitagawa.kochi kochi.kochi mihara.kochi
motoyama.kochi muroto.kochi nahari.kochi nakamura.kochi nankoku.kochi nishitosa.kochi
niyodogawa.kochi ochi.kochi okawa.kochi otoyo.kochi otsuki.kochi sakawa.kochi sukumo.kochi
susaki.kochi tosa.kochi tosashimizu.kochi toyo.kochi tsuno.kochi umaji.kochi yasuda.kochi
yusuhara.kochi amakusa.kumamoto arao.kumamoto aso.kumamoto choyo.kumamoto gyokuto.kumamoto
kamiamakusa.kumamoto kikuchi.kumamoto kumamoto.kumamoto mashiki.kumamoto mifune.kumamoto
minamata.kumamoto minamioguni.kumamoto nagasu.kumamoto nishihara.kumamoto oguni.kumamoto
ozu.kumamoto sumoto.kumamoto takamori.kumamoto uki.kumamoto uto.kumamoto yamaga.kumamoto
yamato.kumamoto yatsushiro.kumamoto ayabe.kyoto fukuchiyama.kyoto higashiyama.kyoto ide.kyoto
ine.kyoto joyo.kyoto kameoka.kyoto kamo.kyoto kita.kyoto kizu.kyoto kumiyama.kyoto kyotamba.kyoto
kyotanabe.kyoto kyotango.kyoto maizuru.kyoto minami.kyoto minamiyamashiro.kyoto miyazu.kyoto
muko.kyoto nagaokakyo.kyoto nakagyo.kyoto nantan.kyoto oyamazaki.kyoto sakyo.kyoto seika.kyoto
tanabe.kyoto uji.kyoto ujitawara.kyoto wazuka.kyoto yamashina.kyoto yawata.kyoto asahi.mie
inabe.mie ise.mie kameyama.mie kawagoe.mie kiho.mie kisosaki.mie kiwa.mie komono.mie kumano.mie
kuwana.mie matsusaka.mie meiwa.mie mihama.mie minamiise.mie misugi.mie miyama.mie nabari.mie
shima.mie suzuka.mie tado.mie taiki.mie taki.mie tamaki.mie toba.mie tsu.mie udono.mie ureshino.mie
watarai.mie yokkaichi.mie furukawa.miyagi higashimatsushima.miyagi ishinomaki.miyagi iwanuma.miyagi
kakuda.miyagi kami.miyagi kawasaki.miyagi marumori.miyagi matsushima.miyagi minamisanriku.miyagi
misato.miyagi murata.miyagi natori.miyagi ogawara.miyagi ohira.miyagi onagawa.miyagi osaki.miyagi
rifu.miyagi semine.miyagi shibata.miyagi shichikashuku.miyagi shikama.miyagi shiogama.miyagi
shiroishi.miyagi tagajo.miyagi taiwa.miyagi tome.miyagi tomiya.miyagi wakuya.miyagi watari.miyagi
yamamoto.miyagi zao.miyagi aya.miyazaki ebino.miyazaki gokase.miyazaki hyuga.miyazaki
kadogawa.miyazaki kawaminami.miyazaki kijo.miyazaki kitagawa.miyazaki kitakata.miyazaki
kitaura.miyazaki kobayashi.miyazaki kunitomi.miyazaki kushima.miyazaki mimata.miyazaki
miyakonojo.miyazaki miyazaki.miyazaki morotsuka.miyazaki nichinan.miyazaki nishimera.miyazaki
nobeoka.miyazaki saito.miyazaki shiiba.miyazaki shintomi.miyazaki takaharu.miyazaki
takanabe.miyazaki takazaki.miyazaki tsuno.miyazaki achi.nagano agematsu.nagano anan.nagano
aoki.nagano asahi.nagano azumino.nagano chikuhoku.nagano chikuma.nagano chino.nagano fujimi.nagano
hakuba.nagano hara.nagano hiraya.nagano iida.nagano iijima.nagano iiyama.nagano iizuna.nagano
ikeda.nagano ikusaka.nagano ina.nagano karuizawa.nagano kawakami.nagano kiso.nagano
kisofukushima.nagano kitaaiki.nagano komagane.nagano komoro.nagano matsukawa.nagano
matsumoto.nagano miasa.nagano minamiaiki.nagano minamimaki.nagano minamiminowa.nagano minowa.nagano
miyada.nagano miyota.nagano mochizuki.nagano nagano.nagano nagawa.nagano nagiso.nagano
nakagawa.nagano nakano.nagano nozawaonsen.nagano obuse.nagano ogawa.nagano okaya.nagano
omachi.nagano omi.nagano ookuwa.nagano ooshika.nagano otaki.nagano otari.nagano sakae.nagano
sakaki.nagano saku.nagano sakuho.nagano shimosuwa.nagano shinanomachi.nagano shiojiri.nagano
suwa.nagano suzaka.nagano takagi.nagano takamori.nagano takayama.nagano tateshina.nagano
tatsuno.nagano togakushi.nagano togura.nagano tomi.nagano ueda.nagano wada.nagano yamagata.nagano
yamanouchi.nagano yasaka.nagano yasuoka.nagano chijiwa.nagasaki futsu.nagasaki goto.nagasaki
hasami.nagasaki hirado.nagasaki iki.nagasaki isahaya.nagasaki kawatana.nagasaki kuchinotsu.nagasaki
matsuura.nagasaki nagasaki.nagasaki obama.nagasaki omura.nagasaki oseto.nagasaki saikai.nagasaki
sasebo.nagasaki seihi.nagasaki shimabara.nagasaki shinkamigoto.nagasaki togitsu.nagasaki
tsushima.nagasaki unzen.nagasaki ando.nara gose.nara heguri.nara higashiyoshino.nara ikaruga.nara
ikoma.nara kamikitayama.nara kanmaki.nara kashiba.nara kashihara.nara katsuragi.nara kawai.nara
kawakami.nara kawanishi.nara koryo.nara kurotaki.nara mitsue.nara miyake.nara nara.nara
nosegawa.nara oji.nara ouda.nara oyodo.nara sakurai.nara sango.nara shimoichi.nara
shimokitayama.nara shinjo.nara soni.nara takatori.nara tawaramoto.nara tenkawa.nara tenri.nara
uda.nara yamatokoriyama.nara yamatotakada.nara yamazoe.nara yoshino.nara aga.niigata agano.niigata
gosen.niigata itoigawa.niigata izumozaki.niigata joetsu.niigata kamo.niigata kariwa.niigata
kashiwazaki.niigata minamiuonuma.niigata mitsuke.niigata muika.niigata murakami.niigata
myoko.niigata nagaoka.niigata niigata.niigata ojiya.niigata omi.niigata sado.niigata sanjo.niigata
seiro.niigata seirou.niigata sekikawa.niigata shibata.niigata tagami.niigata tainai.niigata
tochio.niigata tokamachi.niigata tsubame.niigata tsunan.niigata uonuma.niigata yahiko.niigata
yoita.niigata yuzawa.niigata beppu.oita bungoono.oita bungotakada.oita hasama.oita hiji.oita
himeshima.oita hita.oita kamitsue.oita kokonoe.oita kuju.oita kunisaki.oita kusu.oita oita.oita
saiki.oita taketa.oita tsukumi.oita usa.oita usuki.oita yufu.oita akaiwa.okayama asakuchi.okayama
bizen.okayama hayashima.okayama ibara.okayama kagamino.okayama kasaoka.okayama kibichuo.okayama
kumenan.okayama kurashiki.okayama maniwa.okayama misaki.okayama nagi.okayama niimi.okayama
nishiawakura.okayama okayama.okayama satosho.okayama setouchi.okayama shinjo.okayama shoo.okayama
soja.okayama takahashi.okayama tamano.okayama tsuyama.okayama wake.okayama yakage.okayama
aguni.okinawa ginowan.okinawa ginoza.okinawa gushikami.okinawa haebaru.okinawa higashi.okinawa
hirara.okinawa iheya.okinawa ishigaki.okinawa ishikawa.okinawa itoman.okinawa izena.okinawa
kadena.okinawa kin.okinawa kitadaito.okinawa kitanakagusuku.okinawa kumejima.okinawa
kunigami.okinawa minamidaito.okinawa motobu.okinawa nago.okinawa naha.okinawa nakagusuku.okinawa
nakijin.okinawa nanjo.okinawa nishihara.okinawa ogimi.okinawa okinawa.okinawa onna.okinawa
shimoji.okinawa taketomi.okinawa tarama.okinawa tokashiki.okinawa tomigusuku.okinawa tonaki.okinawa
urasoe.okinawa uruma.okinawa yaese.okinawa yomitan.okinawa yonabaru.okinawa yonaguni.okinawa
zamami.okinawa abeno.osaka chihayaakasaka.osaka chuo.osaka daito.osaka fujiidera.osaka
habikino.osaka hannan.osaka higashiosaka.osaka higashisumiyoshi.osaka higashiyodogawa.osaka
hirakata.osaka ibaraki.osaka ikeda.osaka izumi.osaka izumiotsu.osaka izumisano.osaka kadoma.osaka
kaizuka.osaka kanan.osaka kashiwara.osaka katano.osaka kawachinagano.osaka kishiwada.osaka
kita.osaka kumatori.osaka matsubara.osaka minato.osaka minoh.osaka misaki.osaka moriguchi.osaka
neyagawa.osaka nishi.osaka nose.osaka osakasayama.osaka sakai.osaka sayama.osaka sennan.osaka
settsu.osaka shijonawate.osaka shimamoto.osaka suita.osaka tadaoka.osaka taishi.osaka tajiri.osaka
takaishi.osaka takatsuki.osaka tondabayashi.osaka toyonaka.osaka toyono.osaka yao.osaka ariake.saga
arita.saga fukudomi.saga genkai.saga hamatama.saga hizen.saga imari.saga kamimine.saga kanzaki.saga
karatsu.saga kashima.saga kitagata.saga kitahata.saga kiyama.saga kouhoku.saga kyuragi.saga
nishiarita.saga ogi.saga omachi.saga ouchi.saga saga.saga shiroishi.saga taku.saga tara.saga
tosu.saga yoshinogari.saga arakawa.saitama asaka.saitama chichibu.saitama fujimi.saitama
fujimino.saitama fukaya.saitama hanno.saitama hanyu.saitama hasuda.saitama hatogaya.saitama
hatoyama.saitama hidaka.saitama higashichichibu.saitama higashimatsuyama.saitama honjo.saitama
ina.saitama iruma.saitama iwatsuki.saitama kamiizumi.saitama kamikawa.saitama kamisato.saitama
kasukabe.saitama kawagoe.saitama kawaguchi.saitama kawajima.saitama kazo.saitama kitamoto.saitama
koshigaya.saitama kounosu.saitama kuki.saitama kumagaya.saitama matsubushi.saitama minano.saitama
misato.saitama miyashiro.saitama miyoshi.saitama moroyama.saitama nagatoro.saitama namegawa.saitama
niiza.saitama ogano.saitama ogawa.saitama ogose.saitama okegawa.saitama omiya.saitama otaki.saitama
ranzan.saitama ryokami.saitama saitama.saitama sakado.saitama satte.saitama sayama.saitama
shiki.saitama shiraoka.saitama soka.saitama sugito.saitama toda.saitama tokigawa.saitama
tokorozawa.saitama tsurugashima.saitama urawa.saitama warabi.saitama yashio.saitama yokoze.saitama
yono.saitama yorii.saitama yoshida.saitama yoshikawa.saitama yoshimi.saitama aisho.shiga gamo.shiga
higashiomi.shiga hikone.shiga koka.shiga konan.shiga kosei.shiga koto.shiga kusatsu.shiga
maibara.shiga moriyama.shiga nagahama.shiga nishiazai.shiga notogawa.shiga omihachiman.shiga
otsu.shiga ritto.shiga ryuoh.shiga takashima.shiga takatsuki.shiga torahime.shiga toyosato.shiga
yasu.shiga akagi.shimane ama.shimane gotsu.shimane hamada.shimane higashiizumo.shimane
hikawa.shimane hikimi.shimane izumo.shimane kakinoki.shimane masuda.shimane matsue.shimane
misato.shimane nishinoshima.shimane ohda.shimane okinoshima.shimane okuizumo.shimane
shimane.shimane tamayu.shimane tsuwano.shimane unnan.shimane yakumo.shimane yasugi.shimane
yatsuka.shimane arai.shizuoka atami.shizuoka fuji.shizuoka fujieda.shizuoka fujikawa.shizuoka
fujinomiya.shizuoka fukuroi.shizuoka gotemba.shizuoka haibara.shizuoka hamamatsu.shizuoka
higashiizu.shizuoka ito.shizuoka iwata.shizuoka izu.shizuoka izunokuni.shizuoka kakegawa.shizuoka
kannami.shizuoka kawanehon.shizuoka kawazu.shizuoka kikugawa.shizuoka kosai.shizuoka
makinohara.shizuoka matsuzaki.shizuoka minamiizu.shizuoka mishima.shizuoka morimachi.shizuoka
nishiizu.shizuoka numazu.shizuoka omaezaki.shizuoka shimada.shizuoka shimizu.shizuoka
shimoda.shizuoka shizuoka.shizuoka susono.shizuoka yaizu.shizuoka yoshida.shizuoka ashikaga.tochigi
bato.tochigi haga.tochigi ichikai.tochigi iwafune.tochigi kaminokawa.tochigi kanuma.tochigi
karasuyama.tochigi kuroiso.tochigi mashiko.tochigi mibu.tochigi moka.tochigi motegi.tochigi
nasu.tochigi nasushiobara.tochigi nikko.tochigi nishikata.tochigi nogi.tochigi ohira.tochigi
ohtawara.tochigi oyama.tochigi sakura.tochigi sano.tochigi shimotsuke.tochigi shioya.tochigi
takanezawa.tochigi tochigi.tochigi tsuga.tochigi ujiie.tochigi utsunomiya.tochigi yaita.tochigi
aizumi.tokushima anan.tokushima ichiba.tokushima itano.tokushima kainan.tokushima
komatsushima.tokushima matsushige.tokushima mima.tokushima minami.tokushima miyoshi.tokushima
mugi.tokushima nakagawa.tokushima naruto.tokushima sanagochi.tokushima shishikui.tokushima
tokushima.tokushima wajiki.tokushima adachi.tokyo akiruno.tokyo akishima.tokyo aogashima.tokyo
arakawa.tokyo bunkyo.tokyo chiyoda.tokyo chofu.tokyo chuo.tokyo edogawa.tokyo fuchu.tokyo
fussa.tokyo hachijo.tokyo hachioji.tokyo hamura.tokyo higashikurume.tokyo higashimurayama.tokyo
higashiyamato.tokyo hino.tokyo hinode.tokyo hinohara.tokyo inagi.tokyo itabashi.tokyo
katsushika.tokyo kita.tokyo kiyose.tokyo kodaira.tokyo koganei.tokyo kokubunji.tokyo komae.tokyo
koto.tokyo kouzushima.tokyo kunitachi.tokyo machida.tokyo meguro.tokyo minato.tokyo mitaka.tokyo
mizuho.tokyo musashimurayama.tokyo musashino.tokyo nakano.tokyo nerima.tokyo ogasawara.tokyo
okutama.tokyo ome.tokyo oshima.tokyo ota.tokyo setagaya.tokyo shibuya.tokyo shinagawa.tokyo
shinjuku.tokyo suginami.tokyo sumida.tokyo tachikawa.tokyo taito.tokyo tama.tokyo toshima.tokyo
chizu.tottori hino.tottori kawahara.tottori koge.tottori kotoura.tottori misasa.tottori
nanbu.tottori nichinan.tottori sakaiminato.tottori tottori.tottori wakasa.tottori yazu.tottori
yonago.tottori asahi.toyama fuchu.toyama fukumitsu.toyama funahashi.toyama himi.toyama imizu.toyama
inami.toyama johana.toyama kamiichi.toyama kurobe.toyama nakaniikawa.toyama namerikawa.toyama
nanto.toyama nyuzen.toyama oyabe.toyama taira.toyama takaoka.toyama tateyama.toyama toga.toyama
tonami.toyama toyama.toyama unazuki.toyama uozu.toyama yamada.toyama arida.wakayama
aridagawa.wakayama gobo.wakayama hashimoto.wakayama hidaka.wakayama hirogawa.wakayama
inami.wakayama iwade.wakayama kainan.wakayama kamitonda.wakayama katsuragi.wakayama kimino.wakayama
kinokawa.wakayama kitayama.wakayama koya.wakayama koza.wakayama kozagawa.wakayama kudoyama.wakayama
kushimoto.wakayama mihama.wakayama misato.wakayama nachikatsuura.wakayama shingu.wakayama
shirahama.wakayama taiji.wakayama tanabe.wakayama wakayama.wakayama yuasa.wakayama yura.wakayama
asahi.yamagata funagata.yamagata higashine.yamagata iide.yamagata kahoku.yamagata
kaminoyama.yamagata kaneyama.yamagata kawanishi.yamagata mamurogawa.yamagata mikawa.yamagata
murayama.yamagata nagai.yamagata nakayama.yamagata nanyo.yamagata nishikawa.yamagata
obanazawa.yamagata oe.yamagata oguni.yamagata ohkura.yamagata oishida.yamagata sagae.yamagata
sakata.yamagata sakegawa.yamagata shinjo.yamagata shirataka.yamagata shonai.yamagata
takahata.yamagata tendo.yamagata tozawa.yamagata tsuruoka.yamagata yamagata.yamagata
yamanobe.yamagata yonezawa.yamagata yuza.yamagata abu.yamaguchi hagi.yamaguchi hikari.yamaguchi
hofu.yamaguchi iwakuni.yamaguchi kudamatsu.yamaguchi mitou.yamaguchi nagato.yamaguchi
oshima.yamaguchi shimonoseki.yamaguchi shunan.yamaguchi tabuse.yamaguchi tokuyama.yamaguchi
toyota.yamaguchi ube.yamaguchi yuu.yamaguchi chuo.yamanashi doshi.yamanashi fuefuki.yamanashi
fujikawa.yamanashi fujikawaguchiko.yamanashi fujiyoshida.yamanashi hayakawa.yamanashi
hokuto.yamanashi ichikawamisato.yamanashi kai.yamanashi kofu.yamanashi koshu.yamanashi
kosuge.yamanashi minami-alps.yamanashi minobu.yamanashi nakamichi.yamanashi nanbu.yamanashi
narusawa.yamanashi nirasaki.yamanashi nishikatsura.yamanashi oshino.yamanashi otsuki.yamanashi
showa.yamanashi tabayama.yamanashi tsuru.yamanashi uenohara.yamanashi yamanakako.yamanashi
yamanashi.yamanashi user.aseinet.ne gehirn.ne usercontent blogspot"),
  ("ke", "@ ac co go info me mobi ne or sc blogspot.co nom"),
  ("kg", "@ org net com edu gov mil blog io jp tv uk us"), ("kh", "*"),
  ("ki", "@ edu biz net org gov info com"),
  ("km", "@ org nom gov prd tm edu mil ass com coop asso presse medecin notaires pharmaciens
veterinaire gouv"), ("kn", "@ net org edu gov"), ("kp", "@ com edu gov org rep tra"),
  ("kr", "@ ac co es go hs kg mil ms ne or pe re sc busan chungbuk chungnam daegu daejeon gangwon
gwangju gyeongbuk gyeonggi gyeongnam incheon jeju jeonbuk jeonnam seoul ulsan blogspot"),
  ("kw", "@ com edu emb gov ind net org"), ("ky", "@ edu gov com org net"),
  ("kz", "@ org edu net gov mil com jcloud upaas.kazteleport nym"),
  ("la", "@ int net info edu gov per com org bnr c nym"), ("lb", "@ com edu gov net org"),
  ("lc", "@ com net co org edu gov nym oy"), ("li", "@ blogspot caa nom nym"),
  ("lk", "@ gov sch net int com org edu ngo soc web ltd assn grp hotel ac"),
  ("lr", "@ com edu gov org net"), ("ls", "@ ac biz co edu gov info net org sc de"),
  ("lt", "@ gov blogspot nym"), ("lu", "@ blogspot nym"),
  ("lv", "@ com edu gov org mil id net asn conf nom"),
  ("ly", "@ com net gov plc edu sch med org id"), ("ma", "@ co net gov org ac press"),
  ("mc", "@ tm asso"), ("md", "@ blogspot at de jp to"),
  ("me", "@ co net org edu ac gov its priv c66 daplie localhost.daplie edgestack couk ukco filegear
filegear-au filegear-de filegear-gb filegear-ie filegear-jp filegear-sg glitch ravendb lohmus barsy
mcpe mcdir nctu soundcast tcp4 brasilia ddns dnsfor hopto loginto noip webhop nym diskstation
dscloud i234 myds synology wbq wedeploy yombo nohost"),
  ("mg", "@ org nom gov prd tm edu mil com co"), ("mh", "@"), ("mil", "@"),
  ("mk", "@ com org net edu gov inf name blogspot nom"),
  ("ml", "@ com edu gouv gov net org presse"), ("mm", "*"), ("mn", "@ gov edu org nyc nym"),
  ("mo", "@ com net org edu gov"), ("mobi", "@ barsy dscloud"), ("mp", "@"), ("mq", "@"),
  ("mr", "@ gov blogspot"), ("ms", "@ com edu gov net org lab"),
  ("mt", "@ com edu net org blogspot.com"), ("mu", "@ com net org gov ac co or"),
  ("museum", "@ academy agriculture air airguard alabama alaska amber ambulance american americana
americanantiques americanart amsterdam and annefrank anthro anthropology antiques aquarium
arboretum archaeological archaeology architecture art artanddesign artcenter artdeco arteducation
artgallery arts artsandcrafts asmatart assassination assisi association astronomy atlanta austin
australia automotive aviation axis badajoz baghdad bahn bale baltimore barcelona baseball basel
baths bauern beauxarts beeldengeluid bellevue bergbau berkeley berlin bern bible bilbao bill
birdart birthplace bonn boston botanical botanicalgarden botanicgarden botany brandywinevalley
brasil bristol british britishcolumbia broadcast brunel brussel brussels bruxelles building burghof
bus bushey cadaques california cambridge can canada capebreton carrier cartoonart casadelamoneda
castle castres celtic center chattanooga cheltenham chesapeakebay chicago children childrens
childrensgarden chiropractic chocolate christiansburg cincinnati cinema circus civilisation
civilization civilwar clinton clock coal coastaldefence cody coldwar collection
colonialwilliamsburg coloradoplateau columbia columbus communication communications community
computer computerhistory xn--comunicaes-v6a2o contemporary contemporaryart convent copenhagen
corporation xn--correios-e-telecomunicaes-ghc29a corvette costume countryestate county crafts
cranbrook creation cultural culturalcenter culture cyber cymru dali dallas database ddr
decorativearts delaware delmenhorst denmark depot design detroit dinosaur discovery dolls donostia
durham eastafrica eastcoast education educational egyptian eisenbahn elburg elvendrell embroidery
encyclopedic england entomology environment environmentalconservation epilepsy essex estate
ethnology exeter exhibition family farm farmequipment farmers farmstead field figueres filatelia
film fineart finearts finland flanders florida force fortmissoula fortworth foundation francaise
frankfurt franziskaner freemasonry freiburg fribourg frog fundacio furniture gallery garden gateway
geelvinck gemological geology georgia giessen glas glass gorge grandrapids graz guernsey halloffame
hamburg handson harvestcelebration hawaii health heimatunduhren hellas helsinki hembygdsforbund
heritage histoire historical historicalsociety historichouses historisch historisches history
historyofscience horology house humanities illustration imageandsound indian indiana indianapolis
indianmarket intelligence interactive iraq iron isleofman jamison jefferson jerusalem jewelry
jewish jewishart jfk journalism judaica judygarland juedisches juif karate karikatur kids
koebenhavn koeln kunst kunstsammlung kunstunddesign labor labour lajolla lancashire landes lans
xn--lns-qla larsson lewismiller lincoln linz living livinghistory localhistory london losangeles
louvre loyalist lucerne luxembourg luzern mad madrid mallorca manchester mansion mansions manx
marburg maritime maritimo maryland marylhurst media medical medizinhistorisches meeres memorial
mesaverde michigan midatlantic military mill miners mining minnesota missile missoula modern moma
money monmouth monticello montreal moscow motorcycle muenchen muenster mulhouse muncie museet
museumcenter museumvereniging music national nationalfirearms nationalheritage nativeamerican
naturalhistory naturalhistorymuseum naturalsciences nature naturhistorisches natuurwetenschappen
naumburg naval nebraska neues newhampshire newjersey newmexico newport newspaper newyork niepce
norfolk north nrw nyc nyny oceanographic oceanographique omaha online ontario openair oregon
oregontrail otago oxford pacific paderborn palace paleo palmsprings panama paris pasadena pharmacy
philadelphia philadelphiaarea philately phoenix photography pilots pittsburgh planetarium
plantation plants plaza portal portland portlligat posts-and-telecommunications preservation
presidio press project public pubol quebec railroad railway research resistance riodejaneiro
rochester rockart roma russia saintlouis salem salvadordali salzburg sandiego sanfrancisco
santabarbara santacruz santafe saskatchewan satx savannahga schlesisches schoenbrunn schokoladen
school schweiz science scienceandhistory scienceandindustry sciencecenter sciencecenters
science-fiction sciencehistory sciences sciencesnaturelles scotland seaport settlement settlers
shell sherbrooke sibenik silk ski skole society sologne soundandvision southcarolina southwest
space spy square stadt stalbans starnberg state stateofdelaware station steam steiermark stjohn
stockholm stpetersburg stuttgart suisse surgeonshall surrey svizzera sweden sydney tank tcm
technology telekommunikation television texas textile theater time timekeeping topology torino
touch town transport tree trolley trust trustee uhren ulm undersea university usa usantiques usarts
uscountryestate usculture usdecorativearts usgarden ushistory ushuaia uslivinghistory utah uvic
valley vantaa versailles viking village virginia virtual virtuel vlaanderen volkenkunde wales
wallonie war washingtondc watchandclock watch-and-clock western westfalen whaling wildlife
williamsburg windmill workshop york yorkshire yosemite youth zoological zoology xn--9dbhblg6di
xn--h1aegh"), ("mv", "@ aero biz com coop edu gov info int mil museum name net org pro"),
  ("mw", "@ ac biz co com coop edu gov int museum net org"),
  ("mx", "@ com org gob edu net blogspot jl.serv.net nym"),
  ("my", "@ biz com edu gov mil name net org blogspot"), ("mz", "@ ac adv co edu gov mil net org"),
  ("na", "@ info pro name school or dr us mx ca in cc tv ws mobi co com org"),
  ("name", "@ forgot.her forgot.his"), ("nc", "@ asso nom"), ("ne", "@"),
  ("net", "@ adobeaemcloud alwaysdata cloudfront t3l3p0rt myfritz blackbaudcdn boomla bplaced
square7 gb hu jp se uk in clic2000 clickrising cloudaccess cdn77-ssl r.cdn77 feste-ip knx-server
static-access *.cryptonomic dattolocal mydatto debian bitbridge at-band-camp blogdns broke-it
buyshouses dnsalias dnsdojo does-it dontexist dynalias dynathome endofinternet from-az from-co
from-la from-ny gets-it ham-radio-op homeftp homeip homelinux homeunix in-the-band is-a-chef
is-a-geek isa-geek kicks-ass office-on-the podzone scrapper-site selfip sells-it servebbs serveftp
thruhere webhop definima casacam dynu dynv6 twmail ru channelsdvr u.channelsdvr fastlylb
map.fastlylb freetls.fastly map.fastly a.prod.fastly global.prod.fastly a.ssl.fastly b.ssl.fastly
global.ssl.fastly edgeapp flynnhosting cdn-edges cloudfunctions moonscale in-dsl in-vpn ipifony
iobb cloudjiffy fra1-de.cloudjiffy west1-us.cloudjiffy ams1.jls.docktera jls-sto1.elastx
jls-sto2.elastx jls-sto3.elastx fr-1.paas.massivegrid lon-1.paas.massivegrid lon-2.paas.massivegrid
ny-1.paas.massivegrid ny-2.paas.massivegrid sg-1.paas.massivegrid jelastic.saveincloud
nordeste-idc.saveincloud j.scaleforce jelastic.tsukaeru atl.jelastic.vps-host njs.jelastic.vps-host
kinghost uni5 krellian barsy memset azurewebsites azure-mobile cloudapp azurestaticapps
centralus.azurestaticapps eastasia.azurestaticapps eastus2.azurestaticapps
westeurope.azurestaticapps westus2.azurestaticapps dnsup hicam now-dns ownip vpndns eating-organic
mydissent myeffect mymediapc mypsx mysecuritycamera nhlfan no-ip pgafan privatizehealthinsurance
bounceme ddns redirectme serveblog serveminecraft sytes cloudycluster *.webpaas.ovh *.hosting.ovh
bar0 bar1 bar2 rackmaze schokokeks firewall-gateway seidat senseering siteleaf soc.srcf user.srcf
dsmynas familyds torproject pages.torproject fastblog community-pro meinforum yandexcloud
storage.yandexcloud website.yandexcloud za"),
  ("nf", "@ com net per rec web arts firm info other store"),
  ("ng", "@ com edu gov i mil mobi name net org sch blogspot.com col firm gen ltd ngo"),
  ("ni", "@ ac biz co com edu gob in info int mil net nom org web"),
  ("nl", "@ amsw virtueeldomein co hosting-cluster blogspot khplay *.transurl cistron demon"),
  ("no", "@ fhs vgs fylkesbibl folkebibl museum idrett priv mil stat dep kommune herad aa ah bu fm
hl hm jan-mayen mr nl nt of ol oslo rl sf st svalbard tm tr va vf gs.aa gs.ah gs.bu gs.fm gs.hl
gs.hm gs.jan-mayen gs.mr gs.nl gs.nt gs.of gs.ol gs.oslo gs.rl gs.sf gs.st gs.svalbard gs.tm gs.tr
gs.va gs.vf akrehamn xn--krehamn-dxa algard xn--lgrd-poac arna brumunddal bryne bronnoysund
xn--brnnysund-m8ac drobak xn--drbak-wua egersund fetsund floro xn--flor-jra fredrikstad hokksund
honefoss xn--hnefoss-q1a jessheim jorpeland xn--jrpeland-54a kirkenes kopervik krokstadelva
langevag xn--langevg-jxa leirvik mjondalen xn--mjndalen-64a mo-i-rana mosjoen xn--mosjen-eya
nesoddtangen orkanger osoyro xn--osyro-wua raholt xn--rholt-mra sandnessjoen xn--sandnessjen-ogb
skedsmokorset slattum spjelkavik stathelle stavern stjordalshalsen xn--stjrdalshalsen-sqb tananger
tranby vossevangen afjord xn--fjord-lra agdenes al xn--l-1fa alesund xn--lesund-hua alstahaug alta
xn--lt-liac alaheadju xn--laheadju-7ya alvdal amli xn--mli-tla amot xn--mot-tla andebu andoy
xn--andy-ira andasuolo ardal xn--rdal-poa aremark arendal xn--s-1fa aseral xn--seral-lra asker
askim askvoll askoy xn--asky-ira asnes xn--snes-poa audnedaln aukra aure aurland aurskog-holand
xn--aurskog-hland-jnb austevoll austrheim averoy xn--avery-yua balestrand ballangen balat
xn--blt-elab balsfjord bahccavuotna xn--bhccavuotna-k7a bamble bardu beardu beiarn bajddar
xn--bjddar-pta baidar xn--bidr-5nac berg bergen berlevag xn--berlevg-jxa bearalvahki
xn--bearalvhki-y4a bindal birkenes bjarkoy xn--bjarky-fya bjerkreim bjugn bodo xn--bod-2na badaddja
xn--bdddj-mrabd budejju bokn bremanger bronnoy xn--brnny-wuac bygland bykle barum xn--brum-voa
bo.telemark xn--b-5ga.telemark bo.nordland xn--b-5ga.nordland bievat xn--bievt-0qa bomlo
xn--bmlo-gra batsfjord xn--btsfjord-9za bahcavuotna xn--bhcavuotna-s4a dovre drammen drangedal
dyroy xn--dyry-ira donna xn--dnna-gra eid eidfjord eidsberg eidskog eidsvoll eigersund elverum
enebakk engerdal etne etnedal evenes evenassi xn--eveni-0qa01ga evje-og-hornnes farsund fauske
fuossko fuoisku fedje fet finnoy xn--finny-yua fitjar fjaler fjell flakstad flatanger flekkefjord
flesberg flora fla xn--fl-zia folldal forsand fosnes frei frogn froland frosta frana xn--frna-woa
froya xn--frya-hra fusa fyresdal forde xn--frde-gra gamvik gangaviika xn--ggaviika-8ya47h gaular
gausdal gildeskal xn--gildeskl-g0a giske gjemnes gjerdrum gjerstad gjesdal gjovik xn--gjvik-wua
gloppen gol gran grane granvin gratangen grimstad grong kraanghke xn--kranghke-b0a grue gulen
hadsel halden halsa hamar hamaroy habmer xn--hbmer-xqa hapmir xn--hpmir-xqa hammerfest hammarfeasta
xn--hmmrfeasta-s4ac haram hareid harstad hasvik aknoluokta xn--koluokta-7ya57h hattfjelldal
aarborte haugesund hemne hemnes hemsedal heroy.more-og-romsdal xn--hery-ira.xn--mre-og-romsdal-qqb
heroy.nordland xn--hery-ira.nordland hitra hjartdal hjelmeland hobol xn--hobl-ira hof hol hole
holmestrand holtalen xn--holtlen-hxa hornindal horten hurdal hurum hvaler hyllestad hagebostad
xn--hgebostad-g3a hoyanger xn--hyanger-q1a hoylandet xn--hylandet-54a ha xn--h-2fa ibestad inderoy
xn--indery-fya iveland jevnaker jondal jolster xn--jlster-bya karasjok karasjohka
xn--krjohka-hwab49j karlsoy galsa xn--gls-elac karmoy xn--karmy-yua kautokeino guovdageaidnu klepp
klabu xn--klbu-woa kongsberg kongsvinger kragero xn--krager-gya kristiansand kristiansund
krodsherad xn--krdsherad-m8a kvalsund rahkkeravju xn--rhkkervju-01af kvam kvinesdal kvinnherad
kviteseid kvitsoy xn--kvitsy-fya kvafjord xn--kvfjord-nxa giehtavuoatna kvanangen xn--kvnangen-k0a
navuotna xn--nvuotna-hwa kafjord xn--kfjord-iua gaivuotna xn--givuotna-8ya larvik lavangen lavagis
loabat xn--loabt-0qa lebesby davvesiida leikanger leirfjord leka leksvik lenvik leangaviika
xn--leagaviika-52b lesja levanger lier lierne lillehammer lillesand lindesnes lindas xn--linds-pra
lom loppa lahppi xn--lhppi-xqa lund lunner luroy xn--lury-ira luster lyngdal lyngen ivgu lardal
lerdal xn--lrdal-sra lodingen xn--ldingen-q1a lorenskog xn--lrenskog-54a loten xn--lten-gra malvik
masoy xn--msy-ula0h muosat xn--muost-0qa mandal marker marnardal masfjorden meland meldal melhus
meloy xn--mely-ira meraker xn--merker-kua moareke xn--moreke-jua midsund midtre-gauldal modalen
modum molde moskenes moss mosvik malselv xn--mlselv-iua malatvuopmi xn--mlatvuopmi-s4a namdalseid
aejrie namsos namsskogan naamesjevuemie xn--nmesjevuemie-tcba laakesvuemie nannestad narvik
narviika naustdal nedre-eiker nes.akershus nes.buskerud nesna nesodden nesseby unjarga
xn--unjrga-rta nesset nissedal nittedal nord-aurdal nord-fron nord-odal norddal nordkapp
davvenjarga xn--davvenjrga-y4a nordre-land nordreisa raisa xn--risa-5na nore-og-uvdal notodden
naroy xn--nry-yla5g notteroy xn--nttery-byae odda oksnes xn--ksnes-uua oppdal oppegard
xn--oppegrd-ixa orkdal orland xn--rland-uua orskog xn--rskog-uua orsta xn--rsta-fra os.hedmark
os.hordaland osen osteroy xn--ostery-fya ostre-toten xn--stre-toten-zcb overhalla ovre-eiker
xn--vre-eiker-k8a oyer xn--yer-zna oygarden xn--ygarden-p1a oystre-slidre xn--ystre-slidre-ujb
porsanger porsangu xn--porsgu-sta26f porsgrunn radoy xn--rady-ira rakkestad rana ruovat randaberg
rauma rendalen rennebu rennesoy xn--rennesy-v1a rindal ringebu ringerike ringsaker rissa risor
xn--risr-ira roan rollag rygge ralingen xn--rlingen-mxa rodoy xn--rdy-0nab romskog xn--rmskog-bya
roros xn--rros-gra rost xn--rst-0na royken xn--ryken-vua royrvik xn--ryrvik-bya rade xn--rde-ula
salangen siellak saltdal salat xn--slt-elab xn--slat-5na samnanger sande.more-og-romsdal
sande.xn--mre-og-romsdal-qqb sande.vestfold sandefjord sandnes sandoy xn--sandy-yua sarpsborg sauda
sauherad sel selbu selje seljord sigdal siljan sirdal skaun skedsmo ski skien skiptvet skjervoy
xn--skjervy-v1a skierva xn--skierv-uta skjak xn--skjk-soa skodje skanland xn--sknland-fxa skanit
xn--sknit-yqa smola xn--smla-hra snillfjord snasa xn--snsa-roa snoasa snaase xn--snase-nra sogndal
sokndal sola solund songdalen sortland spydeberg stange stavanger steigen steinkjer stjordal
xn--stjrdal-s1a stokke stor-elvdal stord stordal storfjord omasvuotna strand stranda stryn sula
suldal sund sunndal surnadal sveio svelvik sykkylven sogne xn--sgne-gra somna xn--smna-gra
sondre-land xn--sndre-land-0cb sor-aurdal xn--sr-aurdal-l8a sor-fron xn--sr-fron-q1a sor-odal
xn--sr-odal-q1a sor-varanger xn--sr-varanger-ggb matta-varjjat xn--mtta-vrjjat-k7af sorfold
xn--srfold-bya sorreisa xn--srreisa-q1a sorum xn--srum-gra tana deatnu time tingvoll tinn tjeldsund
dielddanuorri tjome xn--tjme-hra tokke tolga torsken tranoy xn--trany-yua tromso xn--troms-zua
tromsa romsa trondheim troandin trysil trana xn--trna-woa trogstad xn--trgstad-r1a tvedestrand
tydal tynset tysfjord divtasvuodna divttasvuotna tysnes tysvar xn--tysvr-vra tonsberg
xn--tnsberg-q1a ullensaker ullensvang ulvik utsira vadso xn--vads-jra cahcesuolo
xn--hcesuolo-7ya35b vaksdal valle vang vanylven vardo xn--vard-jra varggat xn--vrggt-xqad vefsn
vaapste vega vegarshei xn--vegrshei-c0a vennesla verdal verran vestby vestnes vestre-slidre
vestre-toten vestvagoy xn--vestvgy-ixa6o vevelstad vik vikna vindafjord volda voss varoy
xn--vry-yla5g vagan xn--vgan-qoa voagat vagsoy xn--vgsy-qoa0j vaga xn--vg-yiab valer.ostfold
xn--vler-qoa.xn--stfold-9xa valer.hedmark xn--vler-qoa.hedmark co blogspot"), ("np", "*"),
  ("nr", "@ biz info gov edu org net com"),
  ("nu", "@ merseine mine shacknet nom uwu enterprisecloud"),
  ("nz", "@ ac co cri geek gen govt health iwi kiwi maori mil xn--mori-qsa net org parliament
school blogspot.co nym"), ("om", "@ co com edu gov med museum net org pro"), ("onion", "@"),
  ("org", "@ altervista tele.amune pimienta poivron potager sweetpepper ae us certmgr c.cdn77
rsc.cdn77 ssl.origin.cdn77-secure cloudns duckdns tunk dyndns blogdns blogsite boldlygoingnowhere
dnsalias dnsdojo doesntexist dontexist doomdns dvrdns dynalias endofinternet endoftheinternet
from-me game-host go.dyndns gotdns hobby-site home.dyndns homedns homeftp homelinux homeunix
is-a-bruinsfan is-a-candidate is-a-celticsfan is-a-chef is-a-geek is-a-knight is-a-linux-user
is-a-patsfan is-a-soxfan is-found is-lost is-saved is-very-bad is-very-evil is-very-good
is-very-nice is-very-sweet isa-geek kicks-ass misconfused podzone readmyblog selfip sellsyourhome
servebbs serveftp servegame stuff-4-sale webhop ddnss accesscam camdvr freeddns mywire webredirect
eu al.eu asso.eu at.eu au.eu be.eu bg.eu ca.eu cd.eu ch.eu cn.eu cy.eu cz.eu de.eu dk.eu edu.eu
ee.eu es.eu fi.eu fr.eu gr.eu hr.eu hu.eu ie.eu il.eu in.eu int.eu is.eu it.eu jp.eu kr.eu lt.eu
lu.eu lv.eu mc.eu me.eu mk.eu mt.eu my.eu net.eu ng.eu nl.eu no.eu nz.eu paris.eu pl.eu pt.eu
q-a.eu ro.eu ru.eu se.eu si.eu sk.eu tr.eu uk.eu us.eu twmail fedorainfracloud fedorapeople
cloud.fedoraproject app.os.fedoraproject app.os.stg.fedoraproject freedesktop hepforge in-dsl
in-vpn js barsy mayfirst mozilla-iot bmoattachments dynserv now-dns cable-modem collegefan
couchpotatofries mlbfan mysecuritycamera nflfan read-books ufcfan hopto myftp no-ip zapto pubtls
my-firewall myfirewall spdns small-web dsmynas familyds edugit tuxfamily diskstation hk wmflabs
toolforge wmcloud za"), ("pa", "@ ac gob com org sld edu net ing abo med nom"),
  ("pe", "@ edu gob nom mil org com net blogspot nym"), ("pf", "@ com org edu"), ("pg", "*"),
  ("ph", "@ com net org gov edu ngo mil i"),
  ("pk", "@ com net edu org fam biz web gov gob gok gon gop gos info"),
  ("pl", "@ com net org aid agro atm auto biz edu gmina gsm info mail miasta media mil
nieruchomosci nom pc powiat priv realestate rel sex shop sklep sos szkola targi tm tourism travel
turystyka gov ap.gov ic.gov is.gov us.gov kmpsp.gov kppsp.gov kwpsp.gov psp.gov wskr.gov kwp.gov
mw.gov ug.gov um.gov umig.gov ugim.gov upow.gov uw.gov starostwo.gov pa.gov po.gov psse.gov pup.gov
rzgw.gov sa.gov so.gov sr.gov wsa.gov sko.gov uzs.gov wiih.gov winb.gov pinb.gov wios.gov witd.gov
wzmiuw.gov piw.gov wiw.gov griw.gov wif.gov oum.gov sdn.gov zp.gov uppo.gov mup.gov wuoz.gov
konsulat.gov oirm.gov augustow babia-gora bedzin beskidy bialowieza bialystok bielawa bieszczady
boleslawiec bydgoszcz bytom cieszyn czeladz czest dlugoleka elblag elk glogow gniezno gorlice
grajewo ilawa jaworzno jelenia-gora jgora kalisz kazimierz-dolny karpacz kartuzy kaszuby katowice
kepno ketrzyn klodzko kobierzyce kolobrzeg konin konskowola kutno lapy lebork legnica lezajsk
limanowa lomza lowicz lubin lukow malbork malopolska mazowsze mazury mielec mielno mragowo naklo
nowaruda nysa olawa olecko olkusz olsztyn opoczno opole ostroda ostroleka ostrowiec ostrowwlkp pila
pisz podhale podlasie polkowice pomorze pomorskie prochowice pruszkow przeworsk pulawy radom
rawa-maz rybnik rzeszow sanok sejny slask slupsk sosnowiec stalowa-wola skoczow starachowice
stargard suwalki swidnica swiebodzin swinoujscie szczecin szczytno tarnobrzeg tgory turek tychy
ustka walbrzych warmia warszawa waw wegrow wielun wlocl wloclawek wodzislaw wolomin wroclaw
zachpomor zagan zarow zgora zgorzelec beep shoparena unicloud krasnik leczna lubartow lublin
poniatowa swidnik co art gliwice krakow poznan wroc zakopane gda gdansk gdynia med sopot"),
  ("pm", "@ own"), ("pn", "@ gov co org edu net"), ("post", "@"),
  ("pr", "@ com net org gov edu isla pro biz info name est prof ac"),
  ("pro", "@ aaa aca acct avocat bar cpa eng jur law med recht cloudns bci.dnstrace barsy"),
  ("ps", "@ edu gov sec plo com org net"),
  ("pt", "@ net gov org edu int publ com nome blogspot nym"),
  ("pw", "@ co ne or ed go belau cloudns x443 nom"), ("py", "@ com coop edu gov mil net org"),
  ("qa", "@ com edu gov mil name net org sch blogspot nom"), ("re", "@ asso com nom blogspot"),
  ("ro", "@ arts com firm info nom nt org rec store tm www co shop blogspot nym"),
  ("rs", "@ ac co edu gov in org blogspot ua nom ox"),
  ("ru", "@ ac edu gov int mil test eurodir adygeya bashkiria bir cbg com dagestan grozny kalmykia
kustanai marine mordovia msk mytis nalchik nov pyatigorsk spb vladikavkaz vladimir blogspot na4u
mircloud jelastic.regruhosting myjino *.hosting.myjino *.landing.myjino *.spectrum.myjino
*.vps.myjino hb.cldmail mcdir mcpre vps.mcdir net org pp lk3 ra-ru zsew ras"),
  ("rw", "@ ac co coop gov mil net org"), ("sa", "@ com net org gov med pub edu sch"),
  ("sb", "@ com edu gov net org"), ("sc", "@ com gov net org edu"),
  ("sd", "@ com net org edu med tv gov info"),
  ("se", "@ a ac b bd brand c d e f fh fhsk fhv g h i k komforb kommunalforbund komvux l lanbib m n
naturbruksgymn o org p parti pp press r s t tm u w x y z com blogspot conf iopsys"),
  ("sg", "@ com net org gov edu per blogspot enscaled"),
  ("sh", "@ com net gov org mil bip hashbang bc.platform ent.platform eu.platform us.platform now
vxl wedeploy"), ("si", "@ gitapp gitpage blogspot nom"), ("sj", "@"), ("sk", "@ blogspot nym"),
  ("sl", "@ com net edu gov org"), ("sm", "@"),
  ("sn", "@ art com edu gouv org perso univ blogspot"), ("so", "@ com edu gov me net org sch"),
  ("sr", "@"), ("ss", "@ biz com edu gov net org"),
  ("st", "@ co com consulado edu embaixada gov mil net org principe saotome store nom noho"),
  ("su", "@ abkhazia adygeya aktyubinsk arkhangelsk armenia ashgabad azerbaijan balashov bashkiria
bryansk bukhara chimkent dagestan east-kazakhstan exnet georgia grozny ivanovo jambyl kalmykia
kaluga karacol karaganda karelia khakassia krasnodar kurgan kustanai lenug mangyshlak mordovia msk
murmansk nalchik navoi north-kazakhstan nov obninsk penza pokrovsk sochi spb tashkent termez
togliatti troitsk tselinograd tula tuva vladikavkaz vladimir vologda nym"),
  ("sv", "@ com edu gob org red"), ("sx", "@ gov nym"), ("sy", "@ edu gov net mil com org"),
  ("sz", "@ co ac org"), ("tc", "@ ch me we"), ("td", "@ blogspot"), ("tel", "@"), ("tf", "@"),
  ("tg", "@"), ("th", "@ ac co go in mi net or online shop"),
  ("tj", "@ ac biz co com edu go gov int mil name net nic org test web nom"), ("tk", "@"),
  ("tl", "@ gov"), ("tm", "@ com co org net nom gov mil edu"),
  ("tn", "@ com ens fin gov ind intl nat net org info perso tourism edunet rnrt rns rnu mincom
agrinet defense turen orangecloud"),
  ("to", "@ com gov net org edu mil 611 oya rdv vpnplus direct.quickconnect nyan"),
  ("tr", "@ av bbs bel biz com dr edu gen gov info mil k12 kep name net org pol tel tsk tv web nc
gov.nc blogspot.com"),
  ("tt", "@ co com org net biz info pro int coop jobs mobi travel museum aero name gov edu"),
  ("tv", "@ dyndns better-than on-the-web worse-than"),
  ("tw", "@ edu gov mil com net org idv game ebiz club xn--zf0ao64a xn--uc0atv xn--czrw28b
mymailer.com url blogspot nym"), ("tz", "@ ac co go hotel info me mil mobi ne or sc tv"),
  ("ua", "@ com edu gov in net org cherkassy cherkasy chernigov chernihiv chernivtsi chernovtsy ck
cn cr crimea cv dn dnepropetrovsk dnipropetrovsk donetsk dp if ivano-frankivsk kh kharkiv kharkov
kherson khmelnitskiy khmelnytskyi kiev kirovograd km kr krym ks kv kyiv lg lt lugansk lutsk lv lviv
mk mykolaiv nikolaev od odesa odessa pl poltava rivne rovno rv sb sebastopol sevastopol sm sumy te
ternopil uz uzhgorod vinnica vinnytsia vn volyn yalta zaporizhzhe zaporizhzhia zhitomir zhytomyr zp
zt cc inf ltd biz co pp v cx"), ("ug", "@ co or ac sc go ne com org blogspot nom"),
  ("uk", "@ ac co gov ltd me net nhs org plc police *.sch dh.bytemark.co vm.bytemark.co conn copro
service.gov pymnt homeoffice.gov blogspot.co j.layershift.co glug.org lug.org lugs.org barsy.co
barsyonline.co barsy cust.retrosnub.co nh-serv.co no-ip.co wellbeingzone.co gwiddle.co"),
  ("us", "@ dni fed isa kids nsn ak al ar as az ca co ct dc de fl ga gu hi ia id il in ks ky la ma
md me mi mn mo ms mt nc nd ne nh nj nm nv ny oh ok or pa pr ri sc sd tn tx ut vi vt va wa wi wv wy
k12.ak k12.al k12.ar k12.as k12.az k12.ca k12.co k12.ct k12.dc k12.de k12.fl k12.ga k12.gu k12.ia
k12.id k12.il k12.in k12.ks k12.ky k12.la k12.ma k12.md k12.me k12.mi k12.mn k12.mo k12.ms k12.mt
k12.nc k12.ne k12.nh k12.nj k12.nm k12.nv k12.ny k12.oh k12.ok k12.or k12.pa k12.pr k12.sc k12.tn
k12.tx k12.ut k12.vi k12.vt k12.va k12.wa k12.wi k12.wy cc.ak cc.al cc.ar cc.as cc.az cc.ca cc.co
cc.ct cc.dc cc.de cc.fl cc.ga cc.gu cc.hi cc.ia cc.id cc.il cc.in cc.ks cc.ky cc.la cc.ma cc.md
cc.me cc.mi cc.mn cc.mo cc.ms cc.mt cc.nc cc.nd cc.ne cc.nh cc.nj cc.nm cc.nv cc.ny cc.oh cc.ok
cc.or cc.pa cc.pr cc.ri cc.sc cc.sd cc.tn cc.tx cc.ut cc.vi cc.vt cc.va cc.wa cc.wi cc.wv cc.wy
lib.ak lib.al lib.ar lib.as lib.az lib.ca lib.co lib.ct lib.dc lib.fl lib.ga lib.gu lib.hi lib.ia
lib.id lib.il lib.in lib.ks lib.ky lib.la lib.ma lib.md lib.me lib.mi lib.mn lib.mo lib.ms lib.mt
lib.nc lib.nd lib.ne lib.nh lib.nj lib.nm lib.nv lib.ny lib.oh lib.ok lib.or lib.pa lib.pr lib.ri
lib.sc lib.sd lib.tn lib.tx lib.ut lib.vi lib.vt lib.va lib.wa lib.wi lib.wy pvt.k12.ma chtr.k12.ma
paroch.k12.ma ann-arbor.mi cog.mi dst.mi eaton.mi gen.mi mus.mi tec.mi washtenaw.mi cloudns drud
is-by land-4-sale stuff-4-sale graphox phx.enscaled mircloud freeddns golffan noip pointto platterp
lib.de"), ("uy", "@ com edu gub mil net org blogspot.com nom"), ("uz", "@ co com net org"),
  ("va", "@"), ("vc", "@ com net org gov mil edu gv d.gv 0e nom"),
  ("ve", "@ arts co com e12 edu firm gob gov info int mil net org rec store tec web"),
  ("vg", "@ nom at"), ("vi", "@ co com k12 net org"),
  ("vn", "@ com net org edu gov int ac biz info name pro health blogspot"),
  ("vu", "@ com edu net org blog dev me cn"), ("wf", "@"),
  ("ws", "@ com net org gov edu *.advisor cloud66 dyndns mypets"), ("yt", "@ org"),
  ("xn--mgbaam7a8h", "@"), ("xn--y9a3aq", "@"), ("xn--54b7fta0cc", "@"), ("xn--90ae", "@"),
  ("xn--mgbcpq6gpa1a", "@"), ("xn--90ais", "@"), ("xn--fiqs8s", "@"), ("xn--fiqz9s", "@"),
  ("xn--lgbbat1ad8j", "@"), ("xn--wgbh1c", "@"), ("xn--e1a4c", "@"), ("xn--qxa6a", "@"),
  ("xn--mgbah1a3hjkrd", "@"), ("xn--node", "@"), ("xn--qxam", "@"),
  ("xn--j6w193g", "@ xn--55qx5d xn--wcvs22d xn--mxtq1m xn--gmqw5a xn--od0alg xn--uc0atv"),
  ("xn--2scrj9c", "@"), ("xn--3hcrj9c", "@"), ("xn--45br5cyl", "@"), ("xn--h2breg3eve", "@"),
  ("xn--h2brj9c8c", "@"), ("xn--mgbgu82a", "@"), ("xn--rvc1e0am3e", "@"), ("xn--h2brj9c", "@"),
  ("xn--mgbbh1a", "@"), ("xn--mgbbh1a71e", "@"), ("xn--fpcrj9c3d", "@"), ("xn--gecrj9c", "@"),
  ("xn--s9brj9c", "@"), ("xn--45brj9c", "@"), ("xn--xkc2dl3a5ee0h", "@"), ("xn--mgba3a4f16a", "@"),
  ("xn--mgba3a4fra", "@"), ("xn--mgbtx2b", "@"), ("xn--mgbayh7gpa", "@"), ("xn--3e0b707e", "@"),
  ("xn--80ao21a", "@"), ("xn--q7ce6a", "@"), ("xn--fzc2c9e2c", "@"), ("xn--xkc2al3hye2a", "@"),
  ("xn--mgbc0a9azcg", "@"), ("xn--d1alf", "@"), ("xn--l1acc", "@"), ("xn--mix891f", "@"),
  ("xn--mix082f", "@"), ("xn--mgbx4cd0ab", "@"), ("xn--mgb9awbf", "@"), ("xn--mgbai9azgqp6j", "@"),
  ("xn--mgbai9a5eva00b", "@"), ("xn--ygbi2ammx", "@"),
  ("xn--90a3ac", "@ xn--o1ac xn--c1avg xn--90azh xn--d1at xn--o1ach xn--80au"), ("xn--p1ai", "@"),
  ("xn--wgbl6a", "@"), ("xn--mgberp4a5d4ar", "@"), ("xn--mgberp4a5d4a87g", "@"),
  ("xn--mgbqly7c0a67fbc", "@"), ("xn--mgbqly7cvafr", "@"), ("xn--mgbpl2fh", "@"),
  ("xn--yfro4i67o", "@"), ("xn--clchc0ea0b2g2a9gcd", "@"), ("xn--ogbpf8fl", "@"),
  ("xn--mgbtf8fl", "@"),
  ("xn--o3cw4h", "@ xn--12c1fe0br xn--12co0c3b4eva xn--h3cuzk1di xn--o3cyx2a xn--m3ch0j3a
xn--12cfi8ixb8l"), ("xn--pgbs0dh", "@"), ("xn--kpry57d", "@"), ("xn--kprw13d", "@"),
  ("xn--nnx388a", "@"), ("xn--j1amh", "@"), ("xn--mgb2ddes", "@"), ("xxx", "@"),
  ("ye", "@ com edu gov net mil org"),
  ("za", "ac agric alt co edu gov grondar law mil net ngo nic nis nom org school tm web
blogspot.co"), ("zm", "@ ac biz co com edu gov info mil net org sch"),
  ("zw", "@ ac co gov mil org"), ("aaa", "@"), ("aarp", "@"), ("abarth", "@"), ("abb", "@"),
  ("abbott", "@"), ("abbvie", "@"), ("abc", "@"), ("able", "@"), ("abogado", "@"),
  ("abudhabi", "@"), ("academy", "@ official"), ("accenture", "@"), ("accountant", "@"),
  ("accountants", "@"), ("aco", "@"), ("actor", "@"), ("adac", "@"), ("ads", "@"), ("adult", "@"),
  ("aeg", "@"), ("aetna", "@"), ("afamilycompany", "@"), ("afl", "@"), ("africa", "@"),
  ("agakhan", "@"), ("agency", "@"), ("aig", "@"), ("airbus", "@"), ("airforce", "@"),
  ("airtel", "@"), ("akdn", "@"), ("alfaromeo", "@"), ("alibaba", "@"), ("alipay", "@"),
  ("allfinanz", "@"), ("allstate", "@"), ("ally", "@"), ("alsace", "@"), ("alstom", "@"),
  ("amazon", "@"), ("americanexpress", "@"), ("americanfamily", "@"), ("amex", "@"),
  ("amfam", "@"), ("amica", "@"), ("amsterdam", "@"), ("analytics", "@"), ("android", "@"),
  ("anquan", "@"), ("anz", "@"), ("aol", "@"), ("apartments", "@"),
  ("app", "@ wnext platform0 ondigitalocean edgecompute fireweb framer run a.run web hasura
loginline netlify *.northflank telebit vercel"), ("apple", "@"), ("aquarelle", "@"), ("arab", "@"),
  ("aramco", "@"), ("archi", "@"), ("army", "@"), ("art", "@"), ("arte", "@"), ("asda", "@"),
  ("associates", "@"), ("athleta", "@"), ("attorney", "@"), ("auction", "@"), ("audi", "@"),
  ("audible", "@"), ("audio", "@"), ("auspost", "@"), ("author", "@"), ("auto", "@"),
  ("autos", "@"), ("avianca", "@"), ("aws", "@"), ("axa", "@"), ("azure", "@"), ("baby", "@"),
  ("baidu", "@"), ("banamex", "@"), ("bananarepublic", "@"), ("band", "@"), ("bank", "@"),
  ("bar", "@"), ("barcelona", "@"), ("barclaycard", "@"), ("barclays", "@"), ("barefoot", "@"),
  ("bargains", "@"), ("baseball", "@"), ("basketball", "@ aus nz"), ("bauhaus", "@"),
  ("bayern", "@"), ("bbc", "@"), ("bbt", "@"), ("bbva", "@"), ("bcg", "@"), ("bcn", "@"),
  ("beats", "@"), ("beauty", "@"), ("beer", "@"), ("bentley", "@"), ("berlin", "@"), ("best", "@"),
  ("bestbuy", "@"), ("bet", "@"), ("bharti", "@"), ("bible", "@"), ("bid", "@"), ("bike", "@"),
  ("bing", "@"), ("bingo", "@"), ("bio", "@"), ("black", "@"), ("blackfriday", "@"),
  ("blockbuster", "@"), ("blog", "@"), ("bloomberg", "@"), ("blue", "@"), ("bms", "@"),
  ("bmw", "@"), ("bnpparibas", "@"), ("boats", "@"), ("boehringer", "@"), ("bofa", "@"),
  ("bom", "@"), ("bond", "@"), ("boo", "@"), ("book", "@"), ("booking", "@"), ("bosch", "@"),
  ("bostik", "@"), ("boston", "@"), ("bot", "@"), ("boutique", "@"), ("box", "@"),
  ("bradesco", "@"), ("bridgestone", "@"), ("broadway", "@"), ("broker", "@"), ("brother", "@"),
  ("brussels", "@"), ("budapest", "@"), ("bugatti", "@"), ("build", "@"),
  ("builders", "@ cloudsite"), ("business", "@ co"), ("buy", "@"), ("buzz", "@"), ("bzh", "@"),
  ("cab", "@"), ("cafe", "@"), ("cal", "@"), ("call", "@"), ("calvinklein", "@"), ("cam", "@"),
  ("camera", "@"), ("camp", "@"), ("cancerresearch", "@"), ("canon", "@"), ("capetown", "@"),
  ("capital", "@"), ("capitalone", "@"), ("car", "@"), ("caravan", "@"), ("cards", "@"),
  ("care", "@"), ("career", "@"), ("careers", "@"), ("cars", "@"), ("casa", "@ ui.nabu"),
  ("case", "@"), ("cash", "@"), ("casino", "@"), ("catering", "@"), ("catholic", "@"),
  ("cba", "@"), ("cbn", "@"), ("cbre", "@"), ("cbs", "@"), ("center", "@"), ("ceo", "@"),
  ("cern", "@"), ("cfa", "@"), ("cfd", "@"), ("chanel", "@"), ("channel", "@"), ("charity", "@"),
  ("chase", "@"), ("chat", "@"), ("cheap", "@"), ("chintai", "@"), ("christmas", "@"),
  ("chrome", "@"), ("church", "@"), ("cipriani", "@"), ("circle", "@"), ("cisco", "@"),
  ("citadel", "@"), ("citi", "@"), ("citic", "@"), ("city", "@"), ("cityeats", "@"),
  ("claims", "@"), ("cleaning", "@"), ("click", "@"), ("clinic", "@"), ("clinique", "@"),
  ("clothing", "@"),
  ("cloud", "@ *.banzai *.statics es-1.axarnet diadem vip.jelastic jele it1.eur.aruba.jenv-aruba
it1.jenv-aruba it1-eur.jenv-arubabiz oxa tn.oxa uk.oxa primetel uk.primetel ca.reclaim uk.reclaim
us.reclaim ch.trendhosting de.trendhosting kuleuven linkyard *.magentosite perspecta vapor
*.on-rancher *.sensiosite trafficplex urown voorloper"), ("club", "@ cloudns jele barsy pony"),
  ("clubmed", "@"), ("coach", "@"), ("codes", "@ *.owo"), ("coffee", "@"), ("college", "@"),
  ("cologne", "@"), ("comcast", "@"), ("commbank", "@"), ("community", "@ ravendb myforum"),
  ("company", "@"), ("compare", "@"), ("computer", "@"), ("comsec", "@"), ("condos", "@"),
  ("construction", "@"), ("consulting", "@"), ("contact", "@"), ("contractors", "@"),
  ("cooking", "@"), ("cookingchannel", "@"), ("cool", "@ de"), ("corsica", "@"), ("country", "@"),
  ("coupon", "@"), ("coupons", "@"), ("courses", "@"), ("cpa", "@"), ("credit", "@"),
  ("creditcard", "@"), ("creditunion", "@"), ("cricket", "@"), ("crown", "@"), ("crs", "@"),
  ("cruise", "@"), ("cruises", "@"), ("csc", "@"), ("cuisinella", "@"), ("cymru", "@"),
  ("cyou", "@"), ("dabur", "@"), ("dad", "@"), ("dance", "@"), ("data", "@"), ("date", "@"),
  ("dating", "@"), ("datsun", "@"), ("day", "@"), ("dclk", "@"), ("dds", "@"), ("deal", "@"),
  ("dealer", "@"), ("deals", "@"), ("degree", "@"), ("delivery", "@"), ("dell", "@"),
  ("deloitte", "@"), ("delta", "@"), ("democrat", "@"), ("dental", "@"), ("dentist", "@"),
  ("desi", "@"), ("design", "@ bss"),
  ("dev", "@ *.lcl *.lclstage *.stg *.stgstage pages workers curv deno deno-staging fly *.gateway
iserv loginline platter-app vercel *.webhare"), ("dhl", "@"), ("diamonds", "@"), ("diet", "@"),
  ("digital", "@ cloudapps london.cloudapps"), ("direct", "@"), ("directory", "@"),
  ("discount", "@"), ("discover", "@"), ("dish", "@"), ("diy", "@"), ("dnp", "@"), ("docs", "@"),
  ("doctor", "@"), ("dog", "@"), ("domains", "@"), ("dot", "@"), ("download", "@"), ("drive", "@"),
  ("dtv", "@"), ("dubai", "@"), ("duck", "@"), ("dunlop", "@"), ("dupont", "@"), ("durban", "@"),
  ("dvag", "@"), ("dvr", "@"), ("earth", "@ *.dapps *.bzz.dapps"), ("eat", "@"), ("eco", "@"),
  ("edeka", "@"), ("education", "@ co"), ("email", "@"), ("emerck", "@"), ("energy", "@"),
  ("engineer", "@"), ("engineering", "@"), ("enterprises", "@"), ("epson", "@"),
  ("equipment", "@"), ("ericsson", "@"), ("erni", "@"), ("esq", "@"), ("estate", "@ *.compute"),
  ("etisalat", "@"), ("eurovision", "@"), ("eus", "@ user.party"), ("events", "@ co"),
  ("exchange", "@"), ("expert", "@"), ("exposed", "@"), ("express", "@"), ("extraspace", "@"),
  ("fage", "@"), ("fail", "@"), ("fairwinds", "@"), ("faith", "@ ybo"), ("family", "@"),
  ("fan", "@"), ("fans", "@"), ("farm", "@ storj"), ("farmers", "@"), ("fashion", "@ of"),
  ("fast", "@"), ("fedex", "@"), ("feedback", "@"), ("ferrari", "@"), ("ferrero", "@"),
  ("fiat", "@"), ("fidelity", "@"), ("fido", "@"), ("film", "@"), ("final", "@"), ("finance", "@"),
  ("financial", "@ co"), ("fire", "@"), ("firestone", "@"), ("firmdale", "@"), ("fish", "@"),
  ("fishing", "@"), ("fit", "@"), ("fitness", "@"), ("flickr", "@"), ("flights", "@"),
  ("flir", "@"), ("florist", "@"), ("flowers", "@"), ("fly", "@"), ("foo", "@"), ("food", "@"),
  ("foodnetwork", "@"), ("football", "@"), ("ford", "@"), ("forex", "@"), ("forsale", "@"),
  ("forum", "@"), ("foundation", "@"), ("fox", "@"), ("free", "@"), ("fresenius", "@"),
  ("frl", "@"), ("frogans", "@"), ("frontdoor", "@"), ("frontier", "@"), ("ftr", "@"),
  ("fujitsu", "@"), ("fujixerox", "@"), ("fun", "@"), ("fund", "@"), ("furniture", "@"),
  ("futbol", "@"), ("fyi", "@"), ("gal", "@"), ("gallery", "@"), ("gallo", "@"), ("gallup", "@"),
  ("game", "@"), ("games", "@"), ("gap", "@"), ("garden", "@"), ("gay", "@"), ("gbiz", "@"),
  ("gdn", "@ cnpy"), ("gea", "@"), ("gent", "@"), ("genting", "@"), ("george", "@"), ("ggee", "@"),
  ("gift", "@"), ("gifts", "@"), ("gives", "@"), ("giving", "@"), ("glade", "@"), ("glass", "@"),
  ("gle", "@"), ("global", "@"), ("globo", "@"), ("gmail", "@"), ("gmbh", "@"), ("gmo", "@"),
  ("gmx", "@"), ("godaddy", "@"), ("gold", "@"), ("goldpoint", "@"), ("golf", "@"), ("goo", "@"),
  ("goodyear", "@"), ("goog", "@ cloud translate"), ("google", "@"), ("gop", "@"), ("got", "@"),
  ("grainger", "@"), ("graphics", "@"), ("gratis", "@"), ("green", "@"), ("gripe", "@"),
  ("grocery", "@"), ("group", "@ discourse"), ("guardian", "@"), ("gucci", "@"), ("guge", "@"),
  ("guide", "@"), ("guitars", "@"), ("guru", "@"), ("hair", "@"), ("hamburg", "@"),
  ("hangout", "@"), ("haus", "@"), ("hbo", "@"), ("hdfc", "@"), ("hdfcbank", "@"), ("health", "@"),
  ("healthcare", "@"), ("help", "@"), ("helsinki", "@"), ("here", "@"), ("hermes", "@"),
  ("hgtv", "@"), ("hiphop", "@"), ("hisamitsu", "@"), ("hitachi", "@"), ("hiv", "@"), ("hkt", "@"),
  ("hockey", "@"), ("holdings", "@"), ("holiday", "@"), ("homedepot", "@"), ("homegoods", "@"),
  ("homes", "@"), ("homesense", "@"), ("honda", "@"), ("horse", "@"), ("hospital", "@"),
  ("host", "@ cloudaccess freesite fastvps myfast tempurl wpmudev jele mircloud pcloud half"),
  ("hosting", "@ opencraft"), ("hot", "@"), ("hoteles", "@"), ("hotels", "@"), ("hotmail", "@"),
  ("house", "@"), ("how", "@"), ("hsbc", "@"), ("hughes", "@"), ("hyatt", "@"), ("hyundai", "@"),
  ("ibm", "@"), ("icbc", "@"), ("ice", "@"), ("icu", "@"), ("ieee", "@"), ("ifm", "@"),
  ("ikano", "@"), ("imamat", "@"), ("imdb", "@"), ("immo", "@"), ("immobilien", "@"), ("inc", "@"),
  ("industries", "@"), ("infiniti", "@"), ("ing", "@"), ("ink", "@"), ("institute", "@"),
  ("insurance", "@"), ("insure", "@"), ("international", "@"), ("intuit", "@"),
  ("investments", "@"), ("ipiranga", "@"), ("irish", "@"), ("ismaili", "@"), ("ist", "@"),
  ("istanbul", "@"), ("itau", "@"), ("itv", "@"), ("iveco", "@"), ("jaguar", "@"), ("java", "@"),
  ("jcb", "@"), ("jeep", "@"), ("jetzt", "@"), ("jewelry", "@"), ("jio", "@"), ("jll", "@"),
  ("jmp", "@"), ("jnj", "@"), ("joburg", "@"), ("jot", "@"), ("joy", "@"), ("jpmorgan", "@"),
  ("jprs", "@"), ("juegos", "@"), ("juniper", "@"), ("kaufen", "@"), ("kddi", "@"),
  ("kerryhotels", "@"), ("kerrylogistics", "@"), ("kerryproperties", "@"), ("kfh", "@"),
  ("kia", "@"), ("kim", "@"), ("kinder", "@"), ("kindle", "@"), ("kitchen", "@"), ("kiwi", "@"),
  ("koeln", "@"), ("komatsu", "@"), ("kosher", "@"), ("kpmg", "@"), ("kpn", "@"),
  ("krd", "@ co edu"), ("kred", "@"), ("kuokgroup", "@"), ("kyoto", "@"), ("lacaixa", "@"),
  ("lamborghini", "@"), ("lamer", "@"), ("lancaster", "@"), ("lancia", "@"),
  ("land", "@ static dev.static sites.static"), ("landrover", "@"), ("lanxess", "@"),
  ("lasalle", "@"), ("lat", "@"), ("latino", "@"), ("latrobe", "@"), ("law", "@"), ("lawyer", "@"),
  ("lds", "@"), ("lease", "@"), ("leclerc", "@"), ("lefrak", "@"), ("legal", "@"), ("lego", "@"),
  ("lexus", "@"), ("lgbt", "@"), ("lidl", "@"), ("life", "@"), ("lifeinsurance", "@"),
  ("lifestyle", "@"), ("lighting", "@"), ("like", "@"), ("lilly", "@"), ("limited", "@"),
  ("limo", "@"), ("lincoln", "@"), ("linde", "@"), ("link", "@ cyon mypep *.dweb"), ("lipsy", "@"),
  ("live", "@"), ("living", "@"), ("lixil", "@"), ("llc", "@"), ("llp", "@"), ("loan", "@"),
  ("loans", "@"), ("locker", "@"), ("locus", "@"), ("loft", "@"), ("lol", "@ omg"),
  ("london", "@ in of"), ("lotte", "@"), ("lotto", "@"), ("love", "@"), ("lpl", "@"),
  ("lplfinancial", "@"), ("ltd", "@"), ("ltda", "@"), ("lundbeck", "@"), ("luxe", "@"),
  ("luxury", "@"), ("macys", "@"), ("madrid", "@"), ("maif", "@"), ("maison", "@"),
  ("makeup", "@"), ("man", "@"), ("management", "@ router"), ("mango", "@"), ("map", "@"),
  ("market", "@"), ("marketing", "@ from with"), ("markets", "@"), ("marriott", "@"),
  ("marshalls", "@"), ("maserati", "@"), ("mattel", "@"), ("mba", "@"), ("mckinsey", "@"),
  ("med", "@"), ("media", "@"), ("meet", "@"), ("melbourne", "@"), ("meme", "@"),
  ("memorial", "@"), ("men", "@ for repair"), ("menu", "@ barsy"), ("merckmsd", "@"),
  ("miami", "@"), ("microsoft", "@"), ("mini", "@"), ("mint", "@"), ("mit", "@"),
  ("mitsubishi", "@"), ("mlb", "@"), ("mls", "@"), ("mma", "@"), ("mobile", "@"), ("moda", "@"),
  ("moe", "@"), ("moi", "@"), ("mom", "@ and for"), ("monash", "@"), ("money", "@"),
  ("monster", "@"), ("mormon", "@"), ("mortgage", "@"), ("moscow", "@"), ("moto", "@"),
  ("motorcycles", "@"), ("mov", "@"), ("movie", "@"), ("msd", "@"), ("mtn", "@"), ("mtr", "@"),
  ("mutual", "@"), ("nab", "@"), ("nagoya", "@"), ("nationwide", "@"), ("natura", "@"),
  ("navy", "@"), ("nba", "@"), ("nec", "@"), ("netbank", "@"), ("netflix", "@"),
  ("network", "@ *.alces co arvo azimuth tlon"), ("neustar", "@"), ("new", "@"),
  ("news", "@ noticeable"), ("next", "@"), ("nextdirect", "@"), ("nexus", "@"), ("nfl", "@"),
  ("ngo", "@"), ("nhk", "@"), ("nico", "@"), ("nike", "@"), ("nikon", "@"), ("ninja", "@"),
  ("nissan", "@"), ("nissay", "@"), ("nokia", "@"), ("northwesternmutual", "@"), ("norton", "@"),
  ("now", "@"), ("nowruz", "@"), ("nowtv", "@"), ("nra", "@"), ("nrw", "@"), ("ntt", "@"),
  ("nyc", "@"), ("obi", "@"), ("observer", "@"), ("off", "@"), ("office", "@"), ("okinawa", "@"),
  ("olayan", "@"), ("olayangroup", "@"), ("oldnavy", "@"), ("ollo", "@"), ("omega", "@"),
  ("one", "@ onred staging.onred service for under homelink"), ("ong", "@"), ("onl", "@"),
  ("online", "@ barsy"), ("onyourside", "@"), ("ooo", "@"), ("open", "@"), ("oracle", "@"),
  ("orange", "@"), ("organic", "@"), ("origins", "@"), ("osaka", "@"), ("otsuka", "@"),
  ("ott", "@"), ("ovh", "@ nerdpol"), ("page", "@ pdns plesk prvcy"), ("panasonic", "@"),
  ("paris", "@"), ("pars", "@"), ("partners", "@"), ("parts", "@"), ("party", "@ ybo"),
  ("passagens", "@"), ("pay", "@"), ("pccw", "@"), ("pet", "@"), ("pfizer", "@"),
  ("pharmacy", "@"), ("phd", "@"), ("philips", "@"), ("phone", "@"), ("photo", "@"),
  ("photography", "@"), ("photos", "@"), ("physio", "@"), ("pics", "@"), ("pictet", "@"),
  ("pictures", "@ 1337"), ("pid", "@"), ("pin", "@"), ("ping", "@"), ("pink", "@"),
  ("pioneer", "@"), ("pizza", "@"), ("place", "@ co"), ("play", "@"), ("playstation", "@"),
  ("plumbing", "@"), ("plus", "@"), ("pnc", "@"), ("pohl", "@"), ("poker", "@"), ("politie", "@"),
  ("porn", "@ indie"), ("pramerica", "@"), ("praxi", "@"), ("press", "@"), ("prime", "@"),
  ("prod", "@"), ("productions", "@"), ("prof", "@"), ("progressive", "@"), ("promo", "@"),
  ("properties", "@"), ("property", "@"), ("protection", "@"), ("pru", "@"), ("prudential", "@"),
  ("pub", "@ barsy"), ("pwc", "@"), ("qpon", "@"), ("quebec", "@"), ("quest", "@"), ("qvc", "@"),
  ("racing", "@"), ("radio", "@"), ("raid", "@"), ("read", "@"), ("realestate", "@"),
  ("realtor", "@"), ("realty", "@"), ("recipes", "@"), ("red", "@"), ("redstone", "@"),
  ("redumbrella", "@"), ("rehab", "@"), ("reise", "@"), ("reisen", "@"), ("reit", "@"),
  ("reliance", "@"), ("ren", "@"), ("rent", "@"), ("rentals", "@"), ("repair", "@"),
  ("report", "@"), ("republican", "@"), ("rest", "@"), ("restaurant", "@"), ("review", "@ ybo"),
  ("reviews", "@"), ("rexroth", "@"), ("rich", "@"), ("richardli", "@"), ("ricoh", "@"),
  ("ril", "@"), ("rio", "@"), ("rip", "@ clan"), ("rmit", "@"), ("rocher", "@"),
  ("rocks", "@ myddns lima-city webspace"), ("rodeo", "@"), ("rogers", "@"), ("room", "@"),
  ("rsvp", "@"), ("rugby", "@"), ("ruhr", "@"), ("run", "@ hs development ravendb *.code repl"),
  ("rwe", "@"), ("ryukyu", "@"), ("saarland", "@"), ("safe", "@"), ("safety", "@"),
  ("sakura", "@"), ("sale", "@ for"), ("salon", "@"), ("samsclub", "@"), ("samsung", "@"),
  ("sandvik", "@"), ("sandvikcoromant", "@"), ("sanofi", "@"), ("sap", "@"), ("sarl", "@"),
  ("sas", "@"), ("save", "@"), ("saxo", "@"), ("sbi", "@"), ("sbs", "@"), ("sca", "@"),
  ("scb", "@"), ("schaeffler", "@"), ("schmidt", "@"), ("scholarships", "@"), ("school", "@"),
  ("schule", "@"), ("schwarz", "@"), ("science", "@ ybo"), ("scjohnson", "@"),
  ("scot", "@ edu gov service.gov"), ("search", "@"), ("seat", "@"), ("secure", "@"),
  ("security", "@"), ("seek", "@"), ("select", "@"), ("sener", "@"), ("services", "@ loginline"),
  ("ses", "@"), ("seven", "@"), ("sew", "@"), ("sex", "@"), ("sexy", "@"), ("sfr", "@"),
  ("shangrila", "@"), ("sharp", "@"), ("shaw", "@"), ("shell", "@"), ("shia", "@"),
  ("shiksha", "@"), ("shoes", "@"), ("shop", "@ barsy"), ("shopping", "@"), ("shouji", "@"),
  ("show", "@"), ("showtime", "@"), ("silk", "@"), ("sina", "@"), ("singles", "@"),
  ("site", "@ cloudera cyon fnwk folionetwork fastvps jele lelux loginline barsy omniwe opensocial
*.platformsh byen srht mintere"), ("ski", "@"), ("skin", "@"), ("sky", "@"), ("skype", "@"),
  ("sling", "@"), ("smart", "@"), ("smile", "@"), ("sncf", "@"), ("soccer", "@"), ("social", "@"),
  ("softbank", "@"), ("software", "@"), ("sohu", "@"), ("solar", "@"), ("solutions", "@"),
  ("song", "@"), ("sony", "@"), ("soy", "@"), ("spa", "@"), ("space", "@ myfast uber xs4all"),
  ("sport", "@"), ("spot", "@"), ("spreadbetting", "@"), ("srl", "@"), ("stada", "@"),
  ("staples", "@"), ("star", "@"), ("statebank", "@"), ("statefarm", "@"), ("stc", "@"),
  ("stcgroup", "@"), ("stockholm", "@"), ("storage", "@"), ("store", "@ shopware"),
  ("stream", "@"), ("studio", "@"), ("study", "@"), ("style", "@"), ("sucks", "@"),
  ("supplies", "@"), ("supply", "@"), ("support", "@ barsy"), ("surf", "@"), ("surgery", "@"),
  ("suzuki", "@"), ("swatch", "@"), ("swiftcover", "@"), ("swiss", "@"), ("sydney", "@"),
  ("systems", "@ knightpoint"), ("tab", "@"), ("taipei", "@"), ("talk", "@"), ("taobao", "@"),
  ("target", "@"), ("tatamotors", "@"), ("tatar", "@"), ("tattoo", "@"), ("tax", "@"),
  ("taxi", "@"), ("tci", "@"), ("tdk", "@"), ("team", "@ discourse jelastic"), ("tech", "@"),
  ("technology", "@ co"), ("temasek", "@"), ("tennis", "@"), ("teva", "@"), ("thd", "@"),
  ("theater", "@"), ("theatre", "@"), ("tiaa", "@"), ("tickets", "@"), ("tienda", "@"),
  ("tiffany", "@"), ("tips", "@"), ("tires", "@"), ("tirol", "@"), ("tjmaxx", "@"), ("tjx", "@"),
  ("tkmaxx", "@"), ("tmall", "@"), ("today", "@"), ("tokyo", "@"), ("tools", "@"),
  ("top", "@ now-dns ntdll"), ("toray", "@"), ("toshiba", "@"), ("total", "@"), ("tours", "@"),
  ("town", "@"), ("toyota", "@"), ("toys", "@"), ("trade", "@ ybo"), ("trading", "@"),
  ("training", "@"), ("travel", "@"), ("travelchannel", "@"), ("travelers", "@"),
  ("travelersinsurance", "@"), ("trust", "@"), ("trv", "@"), ("tube", "@"), ("tui", "@"),
  ("tunes", "@"), ("tushu", "@"), ("tvs", "@"), ("ubank", "@"), ("ubs", "@"), ("unicom", "@"),
  ("university", "@"), ("uno", "@"), ("uol", "@"), ("ups", "@"), ("vacations", "@"), ("vana", "@"),
  ("vanguard", "@"), ("vegas", "@"), ("ventures", "@"), ("verisign", "@"), ("versicherung", "@"),
  ("vet", "@"), ("viajes", "@"), ("video", "@"), ("vig", "@"), ("viking", "@"), ("villas", "@"),
  ("vin", "@"), ("vip", "@"), ("virgin", "@"), ("visa", "@"), ("vision", "@"), ("viva", "@"),
  ("vivo", "@"), ("vlaanderen", "@"), ("vodka", "@"), ("volkswagen", "@"), ("volvo", "@"),
  ("vote", "@"), ("voting", "@"), ("voto", "@"), ("voyage", "@"), ("vuelos", "@"), ("wales", "@"),
  ("walmart", "@"), ("walter", "@"), ("wang", "@"), ("wanggou", "@"), ("watch", "@"),
  ("watches", "@"), ("weather", "@"), ("weatherchannel", "@"), ("webcam", "@"), ("weber", "@"),
  ("website", "@"), ("wedding", "@"), ("weibo", "@"), ("weir", "@"), ("whoswho", "@"),
  ("wien", "@"), ("wiki", "@"), ("williamhill", "@"), ("win", "@ that"), ("windows", "@"),
  ("wine", "@"), ("winners", "@"), ("wme", "@"), ("wolterskluwer", "@"), ("woodside", "@"),
  ("work", "@ from to"), ("works", "@"), ("world", "@"), ("wow", "@"), ("wtc", "@"), ("wtf", "@"),
  ("xbox", "@"), ("xerox", "@"), ("xfinity", "@"), ("xihuan", "@"), ("xin", "@"),
  ("xn--11b4c3d", "@"), ("xn--1ck2e1b", "@"), ("xn--1qqw23a", "@"), ("xn--30rr7y", "@"),
  ("xn--3bst00m", "@"), ("xn--3ds443g", "@"), ("xn--3oq18vl8pn36a", "@"), ("xn--3pxu8k", "@"),
  ("xn--42c2d9a", "@"), ("xn--45q11c", "@"), ("xn--4gbrim", "@"), ("xn--55qw42g", "@"),
  ("xn--55qx5d", "@"), ("xn--5su34j936bgsg", "@"), ("xn--5tzm5g", "@"), ("xn--6frz82g", "@"),
  ("xn--6qq986b3xl", "@"), ("xn--80adxhks", "@"), ("xn--80aqecdr1a", "@"), ("xn--80asehdb", "@"),
  ("xn--80aswg", "@"), ("xn--8y0a063a", "@"), ("xn--9dbq2a", "@"), ("xn--9et52u", "@"),
  ("xn--9krt00a", "@"), ("xn--b4w605ferd", "@"), ("xn--bck1b9a5dre4c", "@"), ("xn--c1avg", "@"),
  ("xn--c2br7g", "@"), ("xn--cck2b3b", "@"), ("xn--cckwcxetd", "@"), ("xn--cg4bki", "@"),
  ("xn--czr694b", "@"), ("xn--czrs0t", "@"), ("xn--czru2d", "@"), ("xn--d1acj3b", "@"),
  ("xn--eckvdtc9d", "@"), ("xn--efvy88h", "@"), ("xn--fct429k", "@"), ("xn--fhbei", "@"),
  ("xn--fiq228c5hs", "@"), ("xn--fiq64b", "@"), ("xn--fjq720a", "@"), ("xn--flw351e", "@"),
  ("xn--fzys8d69uvgm", "@"), ("xn--g2xx48c", "@"), ("xn--gckr3f0f", "@"), ("xn--gk3at1e", "@"),
  ("xn--hxt814e", "@"), ("xn--i1b6b1a6a2e", "@"), ("xn--imr513n", "@"), ("xn--io0a7i", "@"),
  ("xn--j1aef", "@"), ("xn--jlq480n2rg", "@"), ("xn--jlq61u9w7b", "@"), ("xn--jvr189m", "@"),
  ("xn--kcrx77d1x4a", "@"), ("xn--kput3i", "@"), ("xn--mgba3a3ejt", "@"),
  ("xn--mgba7c0bbn0a", "@"), ("xn--mgbaakc7dvf", "@"), ("xn--mgbab2bd", "@"),
  ("xn--mgbca7dzdo", "@"), ("xn--mgbi4ecexp", "@"), ("xn--mgbt3dhd", "@"), ("xn--mk1bu44c", "@"),
  ("xn--mxtq1m", "@"), ("xn--ngbc5azd", "@"), ("xn--ngbe9e0a", "@"), ("xn--ngbrx", "@"),
  ("xn--nqv7f", "@"), ("xn--nqv7fs00ema", "@"), ("xn--nyqy26a", "@"), ("xn--otu796d", "@"),
  ("xn--p1acf", "@ xn--90amc xn--j1aef xn--j1ael8b xn--h1ahn xn--j1adp xn--c1avg xn--80aaa0cvac
xn--h1aliz xn--90a1af xn--41a"), ("xn--pssy2u", "@"), ("xn--q9jyb4c", "@"), ("xn--qcka1pmc", "@"),
  ("xn--rhqv96g", "@"), ("xn--rovu88b", "@"), ("xn--ses554g", "@"), ("xn--t60b56a", "@"),
  ("xn--tckwe", "@"), ("xn--tiq49xqyj", "@"), ("xn--unup4y", "@"),
  ("xn--vermgensberater-ctb", "@"), ("xn--vermgensberatung-pwb", "@"), ("xn--vhquv", "@"),
  ("xn--vuq861b", "@"), ("xn--w4r85el8fhu5dnra", "@"), ("xn--w4rs40l", "@"), ("xn--xhq521b", "@"),
  ("xn--zfr164b", "@"), ("xyz", "@ blogsite localzone crafting zapto *.telebit"), ("yachts", "@"),
  ("yahoo", "@"), ("yamaxun", "@"), ("yandex", "@"), ("yodobashi", "@"), ("yoga", "@"),
  ("yokohama", "@"), ("you", "@"), ("youtube", "@"), ("yun", "@"), ("zappos", "@"), ("zara", "@"),
  ("zero", "@"), ("zip", "@"), ("zone", "@ cloud66 hs *.triton lima"), ("zuerich", "@")]

end Cookie
end Wiretap
